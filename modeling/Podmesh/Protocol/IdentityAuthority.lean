import Mathlib.Data.List.Nodup
import Podmesh.Protocol.Identity

namespace Podmesh

open Biscuit (Fact Atom Query Token Binding)

section Policy
variable {facts : List Fact} {fields : List (String × String)} {b : Binding}

theorem ground_atom_is : (⟨name, [.value k]⟩ : Atom).Is b f ↔ f = ⟨name, [k]⟩ := by
  obtain ⟨fname, terms⟩ := f
  constructor
  · rintro ⟨rfl, ht⟩
    have ht' : [k].map some = terms.map some := ht
    rw [List.map_injective_iff.2 (Option.some_injective _) ht']
  · rintro h
    cases h
    exact ⟨rfl, rfl⟩

theorem keyed_atom_is :
    (⟨name, [.value k, .var i]⟩ : Atom).Is b f ↔ ∃ v, b i = some v ∧ f = ⟨name, [k, v]⟩ := by
  obtain ⟨fname, terms⟩ := f
  constructor
  · rintro ⟨rfl, ht⟩
    have ht' : [some k, b i] = terms.map some := ht
    cases hi : b i with
    | none =>
      have hmm : none ∈ terms.map some := by
        rw [← ht', hi]
        exact List.mem_cons_of_mem _ List.mem_cons_self
      obtain ⟨_, _, h⟩ := List.mem_map.1 hmm
      cases h
    | some v =>
      rw [hi] at ht'
      have hm : [k, v].map some = terms.map some := ht'
      obtain rfl := List.map_injective_iff.2 (Option.some_injective _) hm
      exact ⟨v, rfl, rfl⟩
  · rintro ⟨v, hv, h⟩
    cases h
    refine ⟨rfl, ?_⟩
    change [some k, b i] = [some k, some v]
    rw [hv]

theorem tokenPolicy_holds : (tokenPolicy role fields).holds facts = true ↔
    roleFact role ∈ facts ∧
      ∀ field ∈ fields, ∃ v, claimFact field.1 v ∈ facts ∧ expectedFact field.1 v ∈ facts := by
  rw [tokenPolicy, Query.all_holds]
  constructor
  · rintro ⟨b, hb⟩
    constructor
    · obtain ⟨f, hf, his⟩ := hb _ List.mem_cons_self
      rw [ground_atom_is] at his
      subst his
      exact hf
    · intro field hfl
      obtain ⟨i, hi⟩ := List.getElem?_of_mem hfl
      have hm : (field, i) ∈ fields.zipIdx := List.mem_zipIdx_iff_getElem?.2 hi
      have hat : ∀ a ∈ fieldAtoms field i, ∃ f ∈ facts, a.Is b f := by
        intro a ha
        exact hb a (List.mem_cons_of_mem _ (List.mem_flatMap.2 ⟨_, hm, ha⟩))
      obtain ⟨f, hf, hc⟩ := hat _ List.mem_cons_self
      obtain ⟨g, hg, he⟩ := hat _ (List.mem_cons_of_mem _ List.mem_cons_self)
      obtain ⟨v, hv, rfl⟩ := keyed_atom_is.1 hc
      obtain ⟨w, hw, rfl⟩ := keyed_atom_is.1 he
      rw [hv] at hw
      cases hw
      exact ⟨v, hf, hg⟩
  · rintro ⟨hr, hfi⟩
    -- the variable of a field takes the value of its claim
    choose v hc he using hfi
    refine ⟨fun i => if hi : i < fields.length then some (v fields[i] (List.getElem_mem hi)) else none,
      ?_⟩
    intro a ha
    rcases List.mem_cons.1 ha with rfl | ha
    · exact ⟨_, hr, ground_atom_is.2 rfl⟩
    · obtain ⟨⟨field, i⟩, hm, ha⟩ := List.mem_flatMap.1 ha
      have hgt : fields[i]? = some field := List.mem_zipIdx_iff_getElem?.1 hm
      obtain ⟨hi, rfl⟩ := List.getElem?_eq_some_iff.1 hgt
      have hfl := List.getElem_mem hi
      simp only [fieldAtoms, List.mem_cons, List.not_mem_nil, or_false] at ha
      rcases ha with rfl | rfl
      · exact ⟨_, hc _ hfl, keyed_atom_is.2 ⟨_, dif_pos hi, rfl⟩⟩
      · exact ⟨_, he _ hfl, keyed_atom_is.2 ⟨_, dif_pos hi, rfl⟩⟩

theorem role_not_given : roleFact role ∉ tokenGiven fields now := by
  simp [tokenGiven, roleFact, expectedFact, timeFact]

theorem claim_not_given : claimFact key v ∉ tokenGiven fields now := by
  simp [tokenGiven, claimFact, expectedFact, timeFact]

theorem expected_mem_given :
    expectedFact key v ∈ tokenGiven fields now ↔ ∃ w, (key, w) ∈ fields ∧ v = .str w := by
  simp only [tokenGiven, expectedFact, timeFact, List.mem_append, List.mem_map, Fact.mk.injEq]
  constructor
  · rintro (⟨field, hf, _, h⟩ | ⟨_, _, h, _⟩)
    · cases h
      exact ⟨field.2, hf, rfl⟩
    · simp at h
  · rintro ⟨w, hw, rfl⟩
    exact .inl ⟨(key, w), hw, trivial, rfl⟩

/-- What an authority block must state for a token to be accepted with given fields. A key may
also be met by an expectation that the block states itself. -/
def Vouches (authority : List Fact) (role : String) (fields : List (String × String)) : Prop :=
  roleFact role ∈ authority ∧ ∀ field ∈ fields, ∃ v, claimFact field.1 v ∈ authority ∧
    (expectedFact field.1 v ∈ authority ∨ ∃ w, (field.1, w) ∈ fields ∧ v = .str w)

def Asserts (authority : List Fact) (role : String) (fields : List (String × String)) : Prop :=
  roleFact role ∈ authority ∧ ∀ field ∈ fields, claimFact field.1 (.str field.2) ∈ authority

theorem allows_iff (token : Token) :
    (tokenPolicy role fields).holds (token.trusted (tokenGiven fields now)) = true ↔
      Vouches token.authority.facts role fields := by
  rw [tokenPolicy_holds]
  simp only [Token.trusted, List.mem_append, role_not_given, claim_not_given, expected_mem_given,
    or_false]
  exact Iff.rfl

theorem Vouches.asserts (h : Vouches auth role fields) (hp : ∀ key v, expectedFact key v ∉ auth)
    (hk : (fields.map Prod.fst).Nodup) : Asserts auth role fields := by
  refine ⟨h.1, ?_⟩
  intro field hf
  obtain ⟨v, hc, he | ⟨w, hw, rfl⟩⟩ := h.2 field hf
  · exact absurd he (hp _ _)
  · have hs : field = (field.1, w) := List.inj_on_of_nodup_map hk hf hw rfl
    rw [hs]
    exact hc

end Policy

namespace TokenPlatform
variable {p : TokenPlatform} {fields : List (String × String)}

theorem verifyToken_ok : p.verifyToken enc root role fields now = .ok () ↔
    enc.utf8ByteSize ≤ (maxIdentityTokenBytes + 2) / 3 * 4 ∧
    ∃ bytes token, p.b64Decode enc = .ok bytes ∧
      (!bytes.isEmpty && bytes.length ≤ maxIdentityTokenBytes) = true ∧
      p.tokenFrom bytes root = .ok token ∧ (now.all fun now => now.toNat ≤ i64Max) = true ∧
      token.checksPass (tokenGiven fields now) = true ∧
      Vouches token.authority.facts role fields := by
  simp only [verifyToken, bind_ok, ensure_ok, exists_const, Token.authorize, Bool.and_eq_true,
    allows_iff, decide_eq_true_eq]
  constructor
  · rintro ⟨hs, bytes, hb, hl, token, ht, htm, hc, hv⟩
    exact ⟨hs, bytes, token, hb, hl, ht, htm, hc, hv⟩
  · rintro ⟨hs, bytes, token, hb, hl, ht, htm, hc, hv⟩
    exact ⟨hs, bytes, hb, hl, token, ht, htm, hc, hv⟩

def ChecksPassAt (p : TokenPlatform) (encoded : String) (root : Bytes)
    (fields : List (String × String)) (t : UInt64) : Prop :=
  ∃ bytes token, p.b64Decode encoded = .ok bytes ∧ p.tokenFrom bytes root = .ok token ∧
    token.checksPass (tokenGiven fields (some t)) = true

theorem verifyToken_at (h : p.verifyToken enc root role fields (some now) = .ok ())
    (ht : t.toNat ≤ i64Max) : p.verifyToken enc root role fields (some t) = .ok () ↔
      p.ChecksPassAt enc root fields t := by
  obtain ⟨hs, bytes, token, hb, hl, htk, _, _, hv⟩ := verifyToken_ok.1 h
  constructor
  · intro h
    obtain ⟨_, bytes, token, hb, _, htk, _, hc, _⟩ := verifyToken_ok.1 h
    exact ⟨bytes, token, hb, htk, hc⟩
  · rintro ⟨bytes', token', hb', ht', hc⟩
    rw [hb] at hb'
    cases hb'
    rw [htk] at ht'
    cases ht'
    exact verifyToken_ok.2
      ⟨hs, bytes, token, hb, hl, htk, decide_eq_true ht, hc, hv⟩

end TokenPlatform

variable {p : TokenPlatform}

theorem EnrollmentDelegation.verify_ok {self : EnrollmentDelegation} :
    self.verify p.identity (some now) = .ok () ↔ self.version = 1 ∧
      self.scope.validate p.toPlatform = .ok () ∧
      ∃ owner, p.publicKey self.scope.tenantOwner = .ok owner ∧
        p.verifyToken self.biscuitB64 owner "workload_enrollment" self.scope.fields (some now) =
          .ok () ∧
        self.scope.issuedAtSecs.toNat ≤ saturatingAdd u64Max now.toNat identityClockSkewSecs ∧
        ∀ finish, self.scope.expiresAtSecs = some finish → now.toNat ≤ finish.toNat := by
  unfold verify
  simp only [bind_ok, ensure_ok, exists_const, beq_iff_eq, decide_eq_true_eq]
  constructor
  · rintro ⟨hv, _, hvl, owner, ho, _, ht, hi, he⟩
    refine ⟨hv, hvl, owner, ho, ht, hi, ?_⟩
    intro finish hf
    simpa [hf] using he
  · rintro ⟨hv, hvl, owner, ho, ht, hi, he⟩
    refine ⟨hv, (), hvl, owner, ho, (), ht, hi, ?_⟩
    cases hf : self.scope.expiresAtSecs with
    | none => rfl
    | some finish => simpa using he finish hf

theorem EnrollmentDelegation.verify_at {self : EnrollmentDelegation}
    (h : self.verify p.identity (some now) = .ok ()) (hn : now.toNat ≤ t.toNat)
    (ht : t.toNat ≤ i64Max)
    (hf : ∀ finish, self.scope.expiresAtSecs = some finish → t.toNat ≤ finish.toNat) :
    self.verify p.identity (some t) = .ok () ↔
      ∀ owner, p.publicKey self.scope.tenantOwner = .ok owner →
        p.ChecksPassAt self.biscuitB64 owner self.scope.fields t := by
  obtain ⟨hv, hvl, owner, ho, htk, hi, _⟩ := verify_ok.1 h
  constructor
  · intro h owner' ho'
    obtain ⟨_, _, owner'', ho'', ht', _⟩ := verify_ok.1 h
    rw [ho''] at ho'
    cases ho'
    rw [ho] at ho''
    cases ho''
    exact (TokenPlatform.verifyToken_at htk ht).1 ht'
  · intro hc
    have ht' := (TokenPlatform.verifyToken_at htk ht).2 (hc owner ho)
    have hi' : self.scope.issuedAtSecs.toNat ≤
        saturatingAdd u64Max t.toNat identityClockSkewSecs := by
      exact Nat.le_trans hi (saturatingAdd_mono hn (Nat.le_refl _))
    exact verify_ok.2 ⟨hv, hvl, owner, ho, ht', hi', hf⟩

theorem WorkloadIdentityClaims.validate_bounds {p : Platform} {self : WorkloadIdentityClaims}
    (h : self.validate p = .ok ()) : self.issuedAtSecs.toNat < self.expiresAtSecs.toNat ∧
      self.expiresAtSecs.toNat ≤ i64Max ∧
      self.expiresAtSecs.toNat - self.issuedAtSecs.toNat ≤ maxIdentityLifetimeSecs := by
  unfold validate at h
  simp only [bind_ok, ensure_ok, exists_const, Bool.and_eq_true, decide_eq_true_eq] at h
  obtain ⟨_, _, _, _, _, _, hw, hl⟩ := h
  exact ⟨hw.1, hw.2, hl⟩

namespace WorkloadIdentity
variable {p : TokenPlatform}

theorem verify_ok {self : WorkloadIdentity} : self.verify p (some now) = .ok () ↔
    self.version = workloadIdentityVersion ∧
    self.delegation.verify p.identity (some now) = .ok () ∧
    self.claims.validate p.toPlatform = .ok () ∧
    self.delegation.digest p = .ok self.claims.delegationDigest ∧
    self.claims.expiresAtSecs.toNat - self.claims.issuedAtSecs.toNat ≤
      self.delegation.scope.maxChildLifetimeSecs.toNat ∧
    self.delegation.scope.issuedAtSecs.toNat ≤
      saturatingAdd u64Max self.claims.issuedAtSecs.toNat identityClockSkewSecs ∧
    (∀ finish, self.delegation.scope.expiresAtSecs = some finish →
      self.claims.expiresAtSecs.toNat ≤ finish.toNat) ∧
    (∃ issuer, p.publicKey self.delegation.scope.issuerPublicKeyB64 = .ok issuer ∧
      p.verifyToken self.biscuitB64 issuer "workload_identity" self.claims.fields (some now) =
        .ok ()) ∧
    self.claims.issuedAtSecs.toNat ≤ saturatingAdd u64Max now.toNat identityClockSkewSecs ∧
    now.toNat ≤ self.claims.expiresAtSecs.toNat := by
  unfold verify live
  simp only [bind_ok, ensure_ok, exists_const, beq_iff_eq, Bool.and_eq_true, decide_eq_true_eq,
    ge_iff_le]
  constructor
  · rintro ⟨hv, _, hd, _, hc, digest, hdg, rfl, hl, hi, hf, issuer, his, _, ht, hlv⟩
    refine ⟨hv, hd, hc, hdg, hl, hi, ?_, ⟨issuer, his, ht⟩, hlv⟩
    intro finish he
    rw [he] at hf
    exact of_decide_eq_true hf
  · rintro ⟨hv, hd, hc, hdg, hl, hi, hf, ⟨issuer, his, ht⟩, hlv⟩
    refine ⟨hv, (), hd, (), hc, _, hdg, rfl, hl, hi, ?_, issuer, his, (), ht, hlv⟩
    cases he : self.delegation.scope.expiresAtSecs with
    | none => rfl
    | some finish => exact decide_eq_true (hf finish he)

/-- The authority behind an identity that is accepted at a time, given what the holders of keys
signed. -/
structure Nested (p : TokenPlatform) (signed : Bytes → List Fact → Prop) (self : WorkloadIdentity)
    (now : UInt64) : Prop where
  owner : ∃ key facts, p.publicKey self.delegation.scope.tenantOwner = .ok key ∧
    signed key facts ∧ Asserts facts "workload_enrollment" self.delegation.scope.fields
  issuer : ∃ key facts, p.publicKey self.delegation.scope.issuerPublicKeyB64 = .ok key ∧
    signed key facts ∧ Asserts facts "workload_identity" self.claims.fields
  digest : self.delegation.digest p = .ok self.claims.delegationDigest
  unexpired : now.toNat ≤ self.claims.expiresAtSecs.toNat
  within : ∀ finish, self.delegation.scope.expiresAtSecs = some finish →
    self.claims.expiresAtSecs.toNat ≤ finish.toNat
  delegated : self.delegation.scope.issuedAtSecs.toNat ≤ now.toNat + identityClockSkewSecs
  issued : self.claims.issuedAtSecs.toNat ≤ now.toNat + identityClockSkewSecs
  lifetime : self.claims.expiresAtSecs.toNat - self.claims.issuedAtSecs.toNat ≤
    min self.delegation.scope.maxChildLifetimeSecs.toNat maxIdentityLifetimeSecs

end WorkloadIdentity

/-- A root key accepts only authority blocks that its holder signed. -/
def TokenPlatform.Unforgeable (p : TokenPlatform) (signed : Bytes → List Fact → Prop) : Prop :=
  ∀ bytes key token, p.tokenFrom bytes key = .ok token → signed key token.authority.facts

/-- The blocks signed leave it to the verifier to say what is expected, as minted blocks do. -/
def Plain (signed : Bytes → List Fact → Prop) : Prop :=
  ∀ key facts, signed key facts → ∀ k v, expectedFact k v ∉ facts

/-- Base64 and the serialization of a fresh token are read back as they were written. -/
structure TokenPlatform.RoundTrips (p : TokenPlatform) : Prop where
  b64 : ∀ bytes, p.b64Decode (p.b64Encode bytes) = .ok bytes
  token : ∀ signer key facts bytes, p.publicOf signer = .ok key →
    p.buildToken signer facts = .ok bytes → p.tokenFrom bytes key = .ok ⟨⟨facts, []⟩, []⟩

theorem tokenFacts_plain : expectedFact k v ∉ tokenFacts role fields := by
  simp [tokenFacts, expectedFact, roleFact, claimFact]

theorem EnrollmentScope.fields_keys (self : EnrollmentScope) :
    (self.fields.map Prod.fst).Nodup := by
  change ["owner", "manifest", "workload", "revision", "issuer", "generation", "issued", "expires",
    "child_lifetime"].Nodup
  decide

theorem WorkloadIdentityClaims.fields_keys (self : WorkloadIdentityClaims) :
    (self.fields.map Prod.fst).Nodup := by
  change ["delegation", "endpoint", "signer", "issued", "expires"].Nodup
  decide

theorem TokenPlatform.asserts_of_verifyToken (hu : p.Unforgeable signed) (hp : Plain signed)
    (hk : (fields.map Prod.fst).Nodup) (h : p.verifyToken enc root role fields now = .ok ()) :
    ∃ facts, signed root facts ∧ Asserts facts role fields := by
  obtain ⟨_, bytes, token, _, _, ht, _, _, hv⟩ := verifyToken_ok.1 h
  have hs := hu bytes root token ht
  exact ⟨_, hs, hv.asserts (hp root _ hs) hk⟩

namespace WorkloadIdentity
variable {p : TokenPlatform} {delegation : EnrollmentDelegation} {identity : WorkloadIdentity}

theorem nested_of_verify {self : WorkloadIdentity} (hu : p.Unforgeable signed) (hp : Plain signed)
    (h : self.verify p (some now) = .ok ()) : self.Nested p signed now := by
  obtain ⟨_, hd, hc, hdg, hl, _, hf, ⟨issuer, hir, ht⟩, his, he⟩ := verify_ok.1 h
  obtain ⟨_, _, owner, how, hdt, hds, _⟩ := EnrollmentDelegation.verify_ok.1 hd
  obtain ⟨_, _, hm⟩ := WorkloadIdentityClaims.validate_bounds hc
  obtain ⟨ownerFacts, ho, hon⟩ := TokenPlatform.asserts_of_verifyToken hu hp
    (EnrollmentScope.fields_keys _) hdt
  obtain ⟨issuerFacts, hi, hiss⟩ := TokenPlatform.asserts_of_verifyToken hu hp
    (WorkloadIdentityClaims.fields_keys _) ht
  exact {
    owner := ⟨owner, ownerFacts, how, ho, hon⟩
    issuer := ⟨issuer, issuerFacts, hir, hi, hiss⟩
    digest := hdg
    unexpired := he
    within := hf
    delegated := Nat.le_trans hds (Nat.min_le_left _ _)
    issued := Nat.le_trans his (Nat.min_le_left _ _)
    lifetime := Nat.le_min.2 ⟨hl, hm⟩ }

theorem mint_ok (h : mint p issuerPrivate delegation eid signer now lifetime = .ok identity) :
    identity.verify p (some now) = .ok () ∧ identity.delegation = delegation ∧
      ∃ issuer bytes, p.publicOf issuerPrivate = .ok issuer ∧
        delegation.scope.issuerPublicKeyB64 = p.b64Encode issuer ∧
        p.buildToken issuerPrivate (tokenFacts "workload_identity" identity.claims.fields) =
          .ok bytes ∧ identity.biscuitB64 = p.b64Encode bytes := by
  unfold mint at h
  simp only [bind_ok, ensure_ok, exists_const, beq_iff_eq, TokenPlatform.mintToken] at h
  obtain ⟨_, _, issuer, his, hs, _, expires, _, digest, _, _, _, encoded, ⟨bytes, hb, _,
    he⟩, _, hv, _, _, hi⟩ := h
  cases hi
  cases he
  exact ⟨hv, rfl, issuer, bytes, his, hs.symm, hb, rfl⟩

theorem minted_checksPass (hr : p.RoundTrips)
    (h : mint p issuerPrivate delegation eid signer now lifetime = .ok identity)
    (hrt : p.publicKey identity.delegation.scope.issuerPublicKeyB64 = .ok root) (t : UInt64) :
    p.ChecksPassAt identity.biscuitB64 root identity.claims.fields t := by
  obtain ⟨_, rfl, issuer, bytes, hi, hs, hb, he⟩ := mint_ok h
  have hk : root = issuer := by
    rw [hs] at hrt
    simp only [Platform.publicKey, bind_ok, exists_const, ensure_ok, hr.b64] at hrt
    obtain ⟨_, key, hk, _, hre⟩ := hrt
    cases hk
    cases hre
    rfl
  subst hk
  refine ⟨bytes, _, ?_, hr.token _ _ _ _ hi hb, rfl⟩
  rw [he]
  exact hr.b64 bytes

theorem minted_verify_at (hr : p.RoundTrips)
    (h : mint p issuerPrivate delegation eid signer now lifetime = .ok identity)
    (hn : now.toNat ≤ t.toNat) (ht : t.toNat ≤ identity.claims.expiresAtSecs.toNat) :
    identity.verify p (some t) = .ok () ↔
      ∀ owner, p.publicKey delegation.scope.tenantOwner = .ok owner →
        p.ChecksPassAt delegation.biscuitB64 owner delegation.scope.fields t := by
  obtain ⟨hvr, rfl, _⟩ := mint_ok h
  obtain ⟨hv, hd, hc, hdg, hl, hp, hf, ⟨issuer, hi, htk⟩, his, _⟩ := verify_ok.1 hvr
  obtain ⟨_, hm, _⟩ := WorkloadIdentityClaims.validate_bounds hc
  have htm : t.toNat ≤ i64Max := Nat.le_trans ht hm
  have ht' := (TokenPlatform.verifyToken_at htk htm).2 (minted_checksPass hr h hi t)
  have hi' : identity.claims.issuedAtSecs.toNat ≤
      saturatingAdd u64Max t.toNat identityClockSkewSecs :=
    Nat.le_trans his (saturatingAdd_mono hn (Nat.le_refl _))
  have hf' : ∀ finish, identity.delegation.scope.expiresAtSecs = some finish →
      t.toNat ≤ finish.toNat := by
    intro finish he
    exact Nat.le_trans ht (hf finish he)
  rw [← EnrollmentDelegation.verify_at hd hn htm hf']
  constructor
  · intro h
    exact (verify_ok.1 h).2.1
  · intro hd'
    exact verify_ok.2 ⟨hv, hd', hc, hdg, hl, hp, hf, ⟨issuer, hi, ht'⟩, hi', ht⟩

/-- An accepted identity carries nested authority, whatever holders appended to its tokens; and a
minted identity is accepted until it expires, at every time at which the checks that the delegation
carries pass. -/
theorem identity_authority_nested (p : TokenPlatform) (signed : Bytes → List Fact → Prop)
    (hu : p.Unforgeable signed) (hp : Plain signed) (hr : p.RoundTrips) :
    (∀ (identity : WorkloadIdentity) (now : UInt64), identity.verify p (some now) = .ok () →
      identity.Nested p signed now) ∧
    ∀ (issuerPrivate : Bytes) (delegation : EnrollmentDelegation) (endpointId signer : String)
      (now lifetime : UInt64) (identity : WorkloadIdentity),
      mint p issuerPrivate delegation endpointId signer now lifetime = .ok identity →
      ∀ t : UInt64, now.toNat ≤ t.toNat → t.toNat ≤ identity.claims.expiresAtSecs.toNat →
        (identity.verify p (some t) = .ok () ↔
          ∀ owner, p.publicKey delegation.scope.tenantOwner = .ok owner →
            p.ChecksPassAt delegation.biscuitB64 owner delegation.scope.fields t) := by
  constructor
  · intro identity now h
    exact nested_of_verify hu hp h
  · intro issuerPrivate delegation endpointId signer now lifetime identity h t hn ht
    exact minted_verify_at hr h hn ht

end WorkloadIdentity

namespace IdentityReference

def encodeText (bytes : Bytes) : String := String.ofList (bytes.map fun b => Char.ofNat b.toNat)

def decodeText (text : String) : Bytes := text.toList.map fun c => UInt8.ofNat c.toNat

theorem decode_encode (bytes : Bytes) : decodeText (encodeText bytes) = bytes := by
  have hby : ∀ b : UInt8, UInt8.ofNat (Char.ofNat b.toNat).toNat = b := by
    intro b
    have hb : b.toNat < 256 := b.toNat_lt
    have hv : b.toNat.isValidChar := .inl (by omega)
    have hc : (Char.ofNat b.toNat).toNat = b.toNat := by
      rw [Char.ofNat, dif_pos hv]
      rfl
    rw [hc]
    exact UInt8.ofNat_toNat
  simp only [decodeText, encodeText, String.toList_ofList, List.map_map]
  exact List.map_id'' hby bytes

def text (c : Char) (n : Nat) : String := String.ofList (List.replicate n c)

def ownerKey : Bytes := List.replicate 32 65
def issuerKey : Bytes := List.replicate 32 66

def scope : EnrollmentScope where
  tenantOwner := text 'A' 32
  manifestId := text 'a' 64
  workloadId := text 'b' 64
  revisionId := text 'c' 64
  issuerPublicKeyB64 := text 'B' 32
  tokenId := "token"
  issuedAtSecs := 0
  expiresAtSecs := none
  maxChildLifetimeSecs := 3600

def delegation : EnrollmentDelegation := ⟨1, scope, encodeText [1]⟩

def claims : WorkloadIdentityClaims := ⟨text 'd' 64, text 'e' 64, text 'C' 32, 100, 160⟩

def identity : WorkloadIdentity := ⟨1, delegation, claims, encodeText [2]⟩

def platform (delegated : Token) : TokenPlatform where
  b64Encode := encodeText
  b64Decode text := .ok (decodeText text)
  canonical _ := .ok []
  signDomain _ _ _ := .ok []
  verifyDomain _ _ _ _ := .ok ()
  blake3Hex _ := text 'd' 64
  parseSocketAddr _ := none
  tokenFrom bytes key :=
    if bytes = [1] ∧ key = ownerKey then .ok delegated
    else if bytes = [2] ∧ key = issuerKey then
      .ok ⟨⟨tokenFacts "workload_identity" claims.fields, []⟩, []⟩
    else .error "invalid token"
  buildToken signer facts :=
    if signer = issuerKey ∧ facts = tokenFacts "workload_identity" claims.fields then .ok [2]
    else .error "unknown block"
  publicOf signer := .ok signer
  delegationJson _ := .ok [1]
  delegationFromJson _ := .ok delegation
  identityJson _ := .ok [1]
  identityFromJson _ := .ok identity
  catalogCheck _ _ _ := .ok ()
  metadataJson _ := .ok []

def signed (delegated : Token) (key : Bytes) (facts : List Fact) : Prop :=
  (key = ownerKey ∧ facts = delegated.authority.facts) ∨
    (key = issuerKey ∧ facts = tokenFacts "workload_identity" claims.fields)

theorem unforgeable (delegated : Token) : (platform delegated).Unforgeable (signed delegated) := by
  intro bytes key token h
  simp only [platform] at h
  split at h
  · next hd =>
    cases h
    exact .inl ⟨hd.2, rfl⟩
  · split at h
    · next hi =>
      cases h
      exact .inr ⟨hi.2, rfl⟩
    · cases h

theorem roundTrips : (platform delegated).RoundTrips where
  b64 bytes := congrArg Except.ok (decode_encode bytes)
  token := by
    intro signer key facts bytes hk hb
    cases hk
    simp only [platform] at hb
    split at hb
    · next hs =>
      cases hb
      rw [hs.1, hs.2]
      rfl
    · cases hb

def narrowed : Token where
  authority := ⟨tokenFacts "workload_enrollment" scope.fields, []⟩
  appended := [⟨[], [(⟨[⟨"time", [.var 0]⟩], fun b => match b 0 with
    | some (.int t) => t ≤ 120
    | _ => false⟩ : Query).holds]⟩]

theorem narrowed_plain : Plain (signed narrowed) := by
  rintro key facts (⟨_, rfl⟩ | ⟨_, rfl⟩) k v <;> exact tokenFacts_plain

theorem narrowed_mint : WorkloadIdentity.mint (platform narrowed) issuerKey delegation
    (text 'e' 64) (text 'C' 32) 100 60 = .ok identity := by
  decide +kernel

def selfExpecting : Token where
  authority := ⟨expectedFact "manifest" (.str "any") :: claimFact "manifest" (.str "any") ::
    tokenFacts "workload_enrollment" (scope.fields.filter fun field => field.1 != "manifest"), []⟩
  appended := []

end IdentityReference

open IdentityReference in
/-- A narrowed delegation gives out an identity until time 160 that is refused from time 121 on;
and an owner who states an expectation lets a manifest pass that no claim names. -/
theorem narrowed_delegation_ends_early :
    ((platform narrowed).Unforgeable (signed narrowed) ∧ Plain (signed narrowed) ∧
      (platform narrowed).RoundTrips ∧
      WorkloadIdentity.mint (platform narrowed) issuerKey delegation (text 'e' 64) (text 'C' 32)
        100 60 = .ok identity ∧ identity.claims.expiresAtSecs = 160 ∧
      identity.verify (platform narrowed) (some 121) =
        .error "identity Biscuit authorization failed") ∧
    ((platform selfExpecting).Unforgeable (signed selfExpecting) ∧
      identity.verify (platform selfExpecting) (some 100) = .ok () ∧
      ∀ facts, signed selfExpecting ownerKey facts →
        ¬ Asserts facts "workload_enrollment" identity.delegation.scope.fields) := by
  refine ⟨⟨unforgeable _, narrowed_plain, roundTrips, narrowed_mint, rfl, by decide +kernel⟩,
    unforgeable _, by decide +kernel, ?_⟩
  rintro facts (⟨_, rfl⟩ | ⟨hk, _⟩) ha
  · have hc := ha.2 ("manifest", scope.manifestId) (by decide +kernel)
    revert hc
    decide +kernel
  · revert hk
    decide

open IdentityReference in
/-- The narrowed delegation still gives out an identity with nested authority, which is accepted
while the appended check passes. -/
theorem identity_authority_nested_narrowed :
    identity.Nested (platform narrowed) (signed narrowed) 100 ∧
      identity.verify (platform narrowed) (some 120) = .ok () := by
  have h := WorkloadIdentity.identity_authority_nested (platform narrowed) (signed narrowed)
    (unforgeable _) narrowed_plain roundTrips
  refine ⟨h.1 identity 100 (by decide +kernel), ?_⟩
  apply (h.2 _ _ _ _ _ _ identity narrowed_mint 120 (by decide) (by decide)).2
  intro owner ho
  have hk : owner = ownerKey := by
    have hs : (platform narrowed).publicKey delegation.scope.tenantOwner = .ok ownerKey := by
      decide +kernel
    rw [hs] at ho
    cases ho
    rfl
  subst hk
  exact ⟨[1], narrowed, by decide +kernel, rfl, by decide +kernel⟩

end Podmesh
