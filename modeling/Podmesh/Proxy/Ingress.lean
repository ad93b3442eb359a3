import Podmesh.Proxy.Authorized

namespace Podmesh

def meshDomainSuffix : String := "mesh.local"

def stripDomain (host suffix : String) : Option String :=
  if suffix.toList.isSuffixOf host.toList then
    some (String.ofList (host.toList.take (host.toList.length - suffix.toList.length)))
  else
    none

def lastLabel (name : String) : String :=
  String.ofList (name.toList.reverse.takeWhile (· ≠ '.')).reverse

/-- The routing key that a host of the form `<routing-key>.mesh.local` names. -/
def canonicalRoutingKey (host : String) : Option String := do
  let name ← stripDomain host ("." ++ meshDomainSuffix)
  let label := lastLabel name
  if label.utf8ByteSize == 64 && (utf8Bytes label).all isAsciiHexdigit then
    some (toAsciiLowercase label)
  else
    none

/-- `IngressState::resolve`: a claimed hostname, or else the canonical name of a key with backends. -/
def resolve (routes : Option RouteTable) (host : String) : Option String := do
  let routes ← routes
  match routes.resolveHost host with
  | some manifestId => some manifestId
  | none =>
    let canonical ← canonicalRoutingKey host
    if routes.contains canonical then some canonical else none

def canonicalHost (key : String) : String := key ++ "." ++ meshDomainSuffix

section Names
variable {key : String}

theorem utf8Bytes_eq : utf8Bytes s = s.toList.flatMap String.utf8EncodeChar := by
  have hl : ∀ l : List Char, utf8Bytes (String.ofList l) = l.flatMap String.utf8EncodeChar := by
    intro l
    simp [utf8Bytes, List.utf8Encode, String.toByteArray_ofList]
  rw [← hl, String.ofList_toList]

theorem lowerHex_char (h : ∀ b ∈ String.utf8EncodeChar c, isLowerHex b = true) :
    c.toLower = c ∧ c ≠ '.' := by
  constructor
  · unfold Char.toLower
    split
    · next hc =>
      exfalso
      have hl : 65 ≤ c.toNat := hc.1
      have hh : c.toNat ≤ 90 := hc.2
      have hb := h (UInt8.ofNat c.toNat) (by
        change _ ∈ (if c.toNat ≤ 127 then [UInt8.ofNat c.toNat] else _)
        rw [if_pos (by omega)]
        exact List.mem_singleton_self _)
      simp [isLowerHex, isAsciiDigit, UInt8.le_iff_toNat_le] at hb
      omega
    · rfl
  · rintro rfl
    revert h
    decide

section
variable (h : (utf8Bytes key).all isLowerHex = true)
include h

theorem lowerHex_chars : ∀ c ∈ key.toList, c.toLower = c ∧ c ≠ '.' := by
  intro c hc
  apply lowerHex_char
  intro b hb
  rw [utf8Bytes_eq] at h
  exact List.all_eq_true.1 h b (List.mem_flatMap.2 ⟨c, hc, hb⟩)

theorem toAsciiLowercase_lowerHex : toAsciiLowercase key = key := by
  have hm : key.toList.map Char.toLower = key.toList.map id :=
    List.map_congr_left fun c hc => (lowerHex_chars h c hc).1
  rw [toAsciiLowercase, hm, List.map_id, String.ofList_toList]

theorem toAsciiLowercase_canonicalHost :
    toAsciiLowercase (canonicalHost key) = canonicalHost key := by
  have hk := congrArg String.toList (toAsciiLowercase_lowerHex h)
  rw [toAsciiLowercase, String.toList_ofList] at hk
  apply String.toList_injective
  simp only [toAsciiLowercase, canonicalHost, String.toList_ofList, String.toList_append,
    List.map_append, hk]
  congr 1

end

theorem stripDomain_append (name suffix : String) : stripDomain (name ++ suffix) suffix = some name := by
  have hs : suffix.toList.isSuffixOf (name.toList ++ suffix.toList) = true :=
    List.isSuffixOf_iff_suffix.2 (List.suffix_append _ _)
  rw [stripDomain, String.toList_append, if_pos hs, List.length_append, Nat.add_sub_cancel,
    List.take_left, String.ofList_toList]

theorem lastLabel_of_not_mem (h : '.' ∉ name.toList) : lastLabel name = name := by
  have ha : ∀ c ∈ name.toList.reverse, decide (c ≠ '.') = true := by
    intro c hc
    apply decide_eq_true
    rintro rfl
    exact h (List.mem_reverse.1 hc)
  rw [lastLabel, List.takeWhile_eq_self_iff.2 ha, List.reverse_reverse, String.ofList_toList]

theorem canonicalRoutingKey_canonicalHost (h : hexId key = .ok ()) :
    canonicalRoutingKey (canonicalHost key) = some key := by
  have hh := ensure_ok.1 h
  rw [Bool.and_eq_true] at hh
  obtain ⟨hsz, hl⟩ := hh
  have hl : (utf8Bytes key).all isLowerHex = true := hl
  have hdt : '.' ∉ key.toList := fun hm => (lowerHex_chars hl _ hm).2 rfl
  have hd : (utf8Bytes key).all isAsciiHexdigit = true := by
    apply List.all_eq_true.2
    intro b hb
    have hb := List.all_eq_true.1 hl b hb
    simp only [isLowerHex, isAsciiHexdigit, Bool.or_eq_true] at hb ⊢
    exact .inl hb
  have hs : stripDomain (canonicalHost key) ("." ++ meshDomainSuffix) = some key := by
    rw [canonicalHost, String.append_assoc]
    exact stripDomain_append key _
  simp only [canonicalRoutingKey, hs, Option.bind_eq_bind, Option.bind_some,
    lastLabel_of_not_mem hdt, hsz, hd, Bool.and_self, if_true, toAsciiLowercase_lowerHex hl]

end Names

theorem EnrollmentDelegation.canonical_of_verify {p : TokenPlatform} {self : EnrollmentDelegation}
    (h : self.verify p.identity (some now) = .ok ()) :
    (∃ key, p.b64Decode self.scope.tenantOwner = .ok key ∧
      self.scope.tenantOwner = p.b64Encode key) ∧ hexId self.scope.manifestId = .ok () := by
  obtain ⟨_, hs, owner, ho, _⟩ := EnrollmentDelegation.verify_ok.1 h
  constructor
  · simp only [Platform.publicKey, bind_ok, exists_const, ensure_ok, Bool.and_eq_true,
      beq_iff_eq] at ho
    obtain ⟨_, key, hk, ⟨_, hsm⟩, _⟩ := ho
    exact ⟨key, hk, hsm.symm⟩
  · simp only [EnrollmentScope.validate, bind_ok, exists_const, ensure_ok] at hs
    obtain ⟨_, _, _, _, _, hi, _⟩ := hs
    exact forEach_ok.1 hi _ List.mem_cons_self

def SidecarRegistration.ownNamed (self : SidecarRegistration) : Bool :=
  self.hosts.all fun host =>
    (canonicalRoutingKey (toAsciiLowercase host)).all fun key => key == self.manifestId

namespace ProxyState
variable {p : ProxyPlatform} {localId : String} {start w w' : ProxyState} {i j : Install}

theorem Authorized.canonical (h : Authorized p localId start w i) :
    (∃ key, p.b64Decode i.registration.ownerPubkey = .ok key ∧
      i.registration.ownerPubkey = p.b64Encode key) ∧ hexId i.registration.manifestId = .ok () := by
  obtain ⟨_, _, _, _, _, _, ⟨_, tenant, identity, now, _, hp⟩, _⟩ := h
  obtain ⟨ho, hm, _, hv⟩ := ProvenTenant.verify_of_authorize hp.live
  have hc := EnrollmentDelegation.canonical_of_verify
    (WorkloadIdentity.verify_ok.1 hv).2.1
  rw [ho, hm, hp.owner, hp.manifest] at hc
  exact hc

theorem Sound.owner_unique (h : Sound p localId start w) (hc : CollisionFree p.toPlatform w)
    (hi : i ∈ w.installs) (hj : j ∈ w.installs)
    (hs : i.registration.manifestId = j.registration.manifestId) :
    i.registration.ownerPubkey = j.registration.ownerPubkey := by
  have hai := (h.installed i hi).2
  have haj := (h.installed j hj).2
  obtain ⟨a, ha, hra⟩ := hai.routeId
  obtain ⟨b, hb, hrb⟩ := haj.routeId
  obtain ⟨⟨a', ha', hea⟩, _⟩ := hai.canonical
  obtain ⟨⟨b', hb', heb⟩, _⟩ := haj.canonical
  rw [ha] at ha'
  cases ha'
  rw [hb] at hb'
  cases hb'
  obtain ⟨rfl, _⟩ := hc i hi j hj a b ha hb (by rw [← hra, ← hrb, hs])
  rw [hea, heb]

def RegisteredBy (w : ProxyState) (manifestId owner : String) : Prop :=
  ∃ i ∈ w.installs, i.registration.manifestId = manifestId ∧ i.registration.ownerPubkey = owner

def Isolated (w : ProxyState) (host key owner : String) : Prop :=
  ∃ m, resolve (some w.routes) host = some m ∧ (m = key ∨ w.RegisteredBy m owner)

def Unclaimed (w : ProxyState) (host owner : String) : Prop :=
  ∀ claim, w.routes.hostClaims.lookup host = some claim → claim.ownerPubkey = owner

variable {routes : RouteTable}

theorem contains_of_backend (hm : routes.byManifest.lookup m = some entry)
    (hb : entry.backends.lookup r = some b) : routes.contains m = true := by
  have hne : entry.backends.entries ≠ [] := List.ne_nil_of_mem (AList.mem_lookup_iff.1 hb)
  simp only [RouteTable.contains, RouteTable.backendCount, hm, Option.map_some, Option.getD_some,
    Assoc.size, decide_eq_true_eq]
  exact List.length_pos_iff.2 hne

theorem resolve_of_claim (h : routes.hostClaims.lookup (toAsciiLowercase host) = some claim) :
    resolve (some routes) host = some claim.manifestId := by
  simp [resolve, RouteTable.resolveHost, h]

theorem resolve_of_canonical (h : routes.hostClaims.lookup (toAsciiLowercase host) = none)
    (hky : canonicalRoutingKey host = some k) (hk : routes.contains k = true) :
    resolve (some routes) host = some k := by
  simp [resolve, RouteTable.resolveHost, h, hky, hk]

theorem isolated_iff_unclaimed (h : Sound p localId start w) (hc : CollisionFree p.toPlatform w)
    (hm : w.routes.byManifest.lookup k = some entry) (hb : entry.backends.lookup r = some b) :
    w.Isolated (canonicalHost k) k entry.ownerPubkey ↔
      w.Unclaimed (canonicalHost k) entry.ownerPubkey := by
  obtain ⟨i, hi, rfl, _, hio, _⟩ := h.traced.backend k entry r b hm hb
  have hh := ((h.installed i hi).2.canonical).2
  have hlw := toAsciiLowercase_canonicalHost (Bool.and_eq_true_iff.1 (ensure_ok.1 hh)).2
  constructor
  · rintro ⟨m, hm', hk⟩ claim hcl
    obtain ⟨j, hj, rfl, _⟩ := h.traced.claim _ claim hcl
    rw [resolve_of_claim (hlw.symm ▸ hcl)] at hm'
    cases hm'
    rcases hk with hk | ⟨l, hl, hlm, hlo⟩
    · exact (h.owner_unique hc hj hi hk).trans hio
    · exact (h.owner_unique hc hj hl hlm.symm).trans hlo
  · intro hf
    cases hcl : w.routes.hostClaims.lookup (canonicalHost i.registration.manifestId) with
    | none =>
      exact ⟨_, resolve_of_canonical (hlw.symm ▸ hcl) (canonicalRoutingKey_canonicalHost hh)
        (contains_of_backend hm hb), .inl rfl⟩
    | some claim =>
      obtain ⟨j, hj, rfl, _⟩ := h.traced.claim _ claim hcl
      exact ⟨_, resolve_of_claim (hlw.symm ▸ hcl), .inr ⟨j, hj, rfl, hf _ hcl⟩⟩

/-- A registration that is about to be installed claims no canonical name but its own. -/
def ownNames (w : ProxyState) : ProxyAction → Bool
  | .stream id _ => match w.streams.lookup id with
    | some ⟨_, _, .granted registration _⟩ => registration.ownNamed
    | _ => true
  | _ => true

theorem reach_ownNamed {replay : PeerReplayRegistry}
    (h : Reach (step p localId) (fun w a => w.Regular a ∧ w.ownNames a = true) (.init replay) w) :
    ∀ i ∈ w.installs, i.registration.ownNamed = true := by
  apply Reach.invariant (fun w : ProxyState => ∀ i ∈ w.installs, i.registration.ownNamed = true) _ _ h
  · intro _ hi
    cases hi
  · intro w a w' hw ih ha hs i hi
    have hsn := reach_sound (hw.mono fun _ _ h => h.1)
    rcases installs_of_step hs hsn.traced with ⟨hsm, _⟩ | ⟨j, s, rfl, hat, hin, _⟩
    · rw [hsm] at hi
      exact ih i hi
    · rw [hin] at hi
      rcases List.mem_cons.1 hi with rfl | hi
      · have ho := ha.2
        simp only [ownNames, show w.streams.lookup _ = _ from hat] at ho
        exact ho
      · exact ih i hi

/-- The canonical name of a key with backends leads to the key or to another one of its owner exactly
if no other owner holds a claim on that name; and it always does in a run in which no registration
claims a canonical name but its own. -/
theorem canonical_host_isolation (p : ProxyPlatform) (localId : String)
    (replay : PeerReplayRegistry) :
    (∀ w k entry r b, Reach (step p localId) Regular (.init replay) w →
      CollisionFree p.toPlatform w → w.routes.byManifest.lookup k = some entry →
      entry.backends.lookup r = some b → (w.Isolated (canonicalHost k) k entry.ownerPubkey ↔
        w.Unclaimed (canonicalHost k) entry.ownerPubkey)) ∧
    ∀ w k entry r b,
      Reach (step p localId) (fun w a => w.Regular a ∧ w.ownNames a = true) (.init replay) w →
      CollisionFree p.toPlatform w → w.routes.byManifest.lookup k = some entry →
      entry.backends.lookup r = some b → w.Isolated (canonicalHost k) k entry.ownerPubkey := by
  constructor
  · intro w k entry r b h hc hm hb
    exact isolated_iff_unclaimed (reach_sound h) hc hm hb
  · intro w k entry r b h hc hm hb
    have hs := reach_sound (h.mono fun _ _ h => h.1)
    apply (isolated_iff_unclaimed hs hc hm hb).2
    intro claim hcl
    obtain ⟨i, hi, rfl, _, hio, _⟩ := hs.traced.backend k entry r b hm hb
    obtain ⟨j, hj, rfl, named, hn, hh⟩ := hs.traced.claim _ claim hcl
    have hhx := ((hs.installed i hi).2.canonical).2
    have ho : i.registration.manifestId = j.registration.manifestId := by
      have ho := List.all_eq_true.1 (reach_ownNamed h j hj) named hn
      rw [hh, canonicalRoutingKey_canonicalHost hhx] at ho
      exact eq_of_beq ho
    exact (hs.owner_unique hc hj hi ho.symm).trans hio

end ProxyState

namespace ProxyState
open ProxyReference

def bothRegistered : List ProxyAction :=
  arrive 1 7 0 ++ registerChecks 1 1 7 1 ++ [.stream 1 (.install 100000)] ++
    arrive 2 8 2 ++ registerChecks 2 2 8 3 ++ [.stream 2 (.install 100000)]

theorem collisionFree
    (h : ∀ i ∈ w.installs, i.registration = registration 1 ∨ i.registration = registration 2) :
    CollisionFree platform.toPlatform w := by
  have hne : manifest 1 ≠ manifest 2 := by decide +kernel
  have ho : platform.b64Decode (registration 1).ownerPubkey = .ok (Reference.key 1) := by
    decide +kernel
  have ht : platform.b64Decode (registration 2).ownerPubkey = .ok (Reference.key 2) := by
    decide +kernel
  intro i hi j hj a b ha hb hr
  rcases h i hi with hri | hri <;> rcases h j hj with hrj | hrj <;> rw [hri] at ha hr ⊢ <;>
    rw [hrj] at hb hr ⊢
  · rw [ho] at ha hb
    cases ha
    cases hb
    exact ⟨rfl, rfl⟩
  · rw [ho] at ha
    rw [ht] at hb
    cases ha
    cases hb
    exact absurd hr hne
  · rw [ht] at ha
    rw [ho] at hb
    cases ha
    cases hb
    exact absurd hr.symm hne
  · rw [ht] at ha hb
    cases ha
    cases hb
    exact ⟨rfl, rfl⟩

/-- The canonical name of the first tenant's workload leads to the second tenant. -/
theorem canonical_name_taken_over : ∃ w entry b,
    Reach (step platform localId) Regular start w ∧ CollisionFree platform.toPlatform w ∧
    w.routes.byManifest.lookup (manifest 1) = some entry ∧ entry.backends.lookup 0 = some b ∧
    entry.ownerPubkey = Reference.owner 1 ∧
    resolve (some w.routes) (canonicalHost (manifest 1)) = some (manifest 2) ∧
    manifest 2 ≠ manifest 1 ∧ ¬ w.RegisteredBy (manifest 2) (Reference.owner 1) := by
  obtain ⟨w, hrc, hin, hrs, entry, he, ho, hb⟩ := exists_reach_of_run
    (step platform localId) Regular start bothRegistered
    (fun w => (∀ i ∈ w.installs, i.registration = registration 1 ∨ i.registration = registration 2) ∧
      resolve (some w.routes) (canonicalHost (manifest 1)) = some (manifest 2) ∧
      ∃ entry, w.routes.byManifest.lookup (manifest 1) = some entry ∧
        entry.ownerPubkey = Reference.owner 1 ∧ (entry.backends.lookup 0).isSome)
    (by decide +kernel)
  obtain ⟨b, hb⟩ := Option.isSome_iff_exists.1 hb
  have hne : manifest 2 ≠ manifest 1 := by decide +kernel
  refine ⟨w, entry, b, hrc, collisionFree hin, he, hb, ho, hrs, hne, ?_⟩
  rintro ⟨i, hi, him, hio⟩
  rcases hin i hi with hr | hr
  · rw [hr] at him
    exact hne him.symm
  · rw [hr] at hio
    revert hio
    decide +kernel

/-- The first tenant alone keeps its canonical name. -/
theorem canonical_host_isolation_sample : ∃ w entry b,
    Reach (step platform localId) (fun w a => w.Regular a ∧ w.ownNames a = true) start w ∧
    w.routes.byManifest.lookup (manifest 1) = some entry ∧ entry.backends.lookup 0 = some b ∧
    w.Isolated (canonicalHost (manifest 1)) (manifest 1) entry.ownerPubkey ∧
    w.Unclaimed (canonicalHost (manifest 1)) entry.ownerPubkey := by
  obtain ⟨w, hr, hin, entry, he, hb⟩ := exists_reach_of_run (step platform localId)
    (fun w a => w.Regular a ∧ w.ownNames a = true) start
    (arrive 1 7 0 ++ registerChecks 1 1 7 1 ++ [.stream 1 (.install 100000)])
    (fun w => (∀ i ∈ w.installs, i.registration = registration 1) ∧
      ∃ entry, w.routes.byManifest.lookup (manifest 1) = some entry ∧
        (entry.backends.lookup 0).isSome) (by decide +kernel)
  obtain ⟨b, hb⟩ := Option.isSome_iff_exists.1 hb
  have hc : CollisionFree platform.toPlatform w := collisionFree fun i hi => .inl (hin i hi)
  have ht := canonical_host_isolation platform localId ⟨.default, .empty⟩
  have his := ht.2 w (manifest 1) entry 0 b hr hc he hb
  exact ⟨w, entry, b, hr, he, hb, his,
    (ht.1 w _ entry 0 b (hr.mono fun _ _ h => h.1) hc he hb).1 his⟩

end ProxyState
end Podmesh
