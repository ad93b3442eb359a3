import Mathlib.Data.Finset.Card
import Podmesh.Scheduler.Placement

namespace Podmesh

def maxSchedulerMembers : Nat := 10000
def maxConvergedMembers : Nat := maxSchedulerMembers
def maxTrustedRelayIssuers : Nat := 64
def maxConvergedIssuers : Nat := maxTrustedRelayIssuers
def signingKeyBytes : Nat := 32

structure IrohPlatform extends Platform where
  validEndpointId : Bytes → Bool
  parseRelayUrl : String → Option String

namespace EndpointRecord

def addrRelayUrl (p : IrohPlatform) (self : EndpointRecord) : Except String (Option String) :=
  match self.relayUrl with
  | none => return none
  | some relayUrl =>
    match p.parseRelayUrl relayUrl with
    | some url => return some url
    | none => throw "invalid endpoint relay URL"

def addrIp (p : IrohPlatform) (direct : String) : Except String String :=
  match p.parseSocketAddr direct with
  | some address => return address
  | none => throw "invalid endpoint direct address"

def endpointAddrHint (p : IrohPlatform) (self : EndpointRecord) : Except String EndpointAddr := do
  self.verifyStructure p.toPlatform
  ensure (self.endpointId.length == 32) "endpoint record ID length is invalid"
  ensure (p.validEndpointId self.endpointId) "endpoint record contains an invalid EndpointId"
  let relayUrl ← self.addrRelayUrl p
  let ipAddrs ← self.directAddresses.mapM (addrIp p)
  return ⟨self.endpointId, relayUrl, ipAddrs⟩

def endpointAddr (p : IrohPlatform) (self : EndpointRecord) (nowSecs : UInt64) :
    Except String EndpointAddr := do
  self.verify p.toPlatform nowSecs
  self.endpointAddrHint p

theorem endpointAddr_ok {self : EndpointRecord} (h : self.endpointAddr p now = .ok address) :
    self.verify p.toPlatform now = .ok () ∧ address.id = self.endpointId := by
  obtain ⟨hv, h⟩ := unit_bind_ok.1 h
  obtain ⟨_, h⟩ := unit_bind_ok.1 h
  obtain ⟨_, h⟩ := unit_bind_ok.1 h
  obtain ⟨_, h⟩ := unit_bind_ok.1 h
  obtain ⟨_, _, h⟩ := bind_ok.1 h
  obtain ⟨_, _, h⟩ := bind_ok.1 h
  cases h
  exact ⟨hv, rfl⟩

end EndpointRecord

abbrev MemberIssuers := AList fun _ : String => Bytes

namespace MemberIssuers

def bind (self : MemberIssuers) (signingPubkey : String) (endpointId : Bytes) :
    Bool × MemberIssuers :=
  if self.lookup signingPubkey = some endpointId then (true, self)
  else if (self.lookup signingPubkey).isNone && decide (maxConvergedMembers ≤ Assoc.size self) then
    (false, self)
  else (true, self.insert signingPubkey endpointId)

def endpointFor (self : MemberIssuers) (signingPubkey : String) : Option Bytes :=
  self.lookup signingPubkey

def matchesEndpoint (self : MemberIssuers) (signingPubkey : String) (endpointId : Bytes) : Bool :=
  self.lookup signingPubkey == some endpointId

theorem bind_cases (self : MemberIssuers) (key : String) (eid : Bytes) :
    (self.bind key eid).1 = false ∧ (self.bind key eid).2 = self ∨ (self.bind key eid).1 = true ∧
      (self.bind key eid).2.lookup key = some eid ∧ ∀ other, other ≠ key →
      (self.bind key eid).2.lookup other = self.lookup other := by
  rw [bind]
  split
  · next h => exact .inr ⟨rfl, h, fun _ _ => rfl⟩
  · split
    · exact .inl ⟨rfl, rfl⟩
    · exact .inr ⟨rfl, AList.lookup_insert _, fun other hne => AList.lookup_insert_ne hne⟩

theorem bind_of_bound {self : MemberIssuers} (h : self.lookup key = some old)
    (eid : Bytes) : (self.bind key eid).1 = true := by
  rw [bind]
  split
  · rfl
  · rw [h]
    rfl

end MemberIssuers

def MemberRegistry.insert (self : Finset Bytes) (endpointId : Bytes) : Finset Bytes :=
  if endpointId ∈ self then self
  else if maxConvergedMembers ≤ self.card then self
  else Insert.insert endpointId self

variable {self : Finset Bytes}

theorem MemberRegistry.mem_insert
    (h : m ∈ MemberRegistry.insert self eid) : m = eid ∨ m ∈ self := by
  unfold MemberRegistry.insert at h
  split at h
  · exact .inr h
  · split at h
    · exact .inr h
    · exact Finset.mem_insert.1 h

theorem MemberRegistry.mem_insert_self (h : endpointId ∈ self ∨ self.card < maxConvergedMembers) :
    endpointId ∈ MemberRegistry.insert self endpointId := by
  unfold MemberRegistry.insert
  split
  · next hm => exact hm
  · next hm =>
    rcases h with h | h
    · exact absurd h hm
    · rw [if_neg (Nat.not_le.2 h)]
      exact Finset.mem_insert_self _ _

theorem MemberRegistry.insert_of_full (hn : eid ∉ self)
    (hf : maxConvergedMembers ≤ self.card) : MemberRegistry.insert self eid = self := by
  rw [MemberRegistry.insert, if_neg hn, if_pos hf]

/-- Trusts an issuer key unless it is known or the list is full. -/
def IssuerRegistry.insert (self : List Bytes) (key : Bytes) : List Bytes :=
  if self.contains key then self
  else if maxConvergedIssuers ≤ self.length then self
  else self ++ [key]

theorem IssuerRegistry.mem_insert {self : List Bytes} (h : k ∈ IssuerRegistry.insert self key) :
    k ∈ self ∨ k = key := by
  unfold IssuerRegistry.insert at h
  split at h
  · exact .inl h
  · split at h
    · exact .inl h
    · rcases List.mem_append.1 h with h | h
      · exact .inl h
      · exact .inr (List.mem_singleton.1 h)

/-- The registries that announcements and peer discovery fill, with what the operator configured,
the endpoints and keys found by HTTP, and the accepted bindings from the latest to the first. -/
structure Membership where
  members : Finset Bytes
  memberIssuers : MemberIssuers
  addresses : AList fun _ : Bytes => EndpointAddr
  issuers : List Bytes
  configured : Finset Bytes
  configuredIssuers : List Bytes
  discovered : Finset Bytes
  pinned : List Bytes
  accepted : List (String × Bytes)

inductive MembershipEvent where
  | announcement (record : EndpointRecord) (nowSecs : UInt64)
  | discovery (record : EndpointRecord) (signingKey : Bytes) (pinAccepted : Bool) (nowSecs : UInt64)

namespace Membership

def start (configured : Finset Bytes) (configuredIssuers : List Bytes) : Membership where
  members := configured
  memberIssuers := ∅
  addresses := ∅
  issuers := configuredIssuers
  configured := configured
  configuredIssuers := configuredIssuers
  discovered := ∅
  pinned := []
  accepted := []

def bind (w : Membership) (signingPubkey : String) (endpointId : Bytes) : Bool × Membership :=
  let result := w.memberIssuers.bind signingPubkey endpointId
  (result.1, { w with
    memberIssuers := result.2
    accepted := if result.1 then (signingPubkey, endpointId) :: w.accepted else w.accepted })

def setEndpointInfo (w : Membership) (address : EndpointAddr) : Membership :=
  { w with addresses := w.addresses.insert address.id address }

def insertMember (w : Membership) (endpointId : Bytes) : Membership :=
  { w with members := MemberRegistry.insert w.members endpointId }

def admitAnnouncedPeer (p : IrohPlatform) (w : Membership) (record : EndpointRecord)
    (nowSecs : UInt64) : Membership :=
  match record.endpointAddr p nowSecs with
  | .error _ => w
  | .ok address =>
    if record.endpointId ∈ w.members ∧
        w.memberIssuers.matchesEndpoint record.signingPubkey record.endpointId = false then w
    else
      match w.bind record.signingPubkey record.endpointId with
      | (false, _) => w
      | (true, w) => (w.setEndpointInfo address).insertMember record.endpointId

/-- The address and the signing key of a peer that answered over HTTP. -/
def discoverPeer (p : IrohPlatform) (record : EndpointRecord) (signingKey : Bytes)
    (pinAccepted : Bool) (nowSecs : UInt64) : Except String (EndpointAddr × Bytes) := do
  record.verify p.toPlatform nowSecs
  let address ← record.endpointAddr p nowSecs
  ensure (signingKey.length == signingKeyBytes) "peer signing public key must contain 32 bytes"
  ensure (p.b64Encode signingKey == record.signingPubkey)
    "peer signing key does not match the key that signed its endpoint record"
  ensure pinAccepted "peer identity does not match its pinned identity"
  return (address, signingKey)

theorem discoverPeer_ok (h : discoverPeer p record sk pinAccepted now = .ok (address, key)) :
    record.endpointAddr p now = .ok address ∧ key = sk ∧ p.b64Encode sk = record.signingPubkey := by
  simp only [discoverPeer, bind_ok] at h
  obtain ⟨_, -, address', ha, _, -, _, hk, _, -, h⟩ := h
  cases h
  rw [ensure_ok, beq_iff_eq] at hk
  exact ⟨ha, rfl, hk⟩

def recordPeer (p : IrohPlatform) (w : Membership) (address : EndpointAddr) (signingKey : Bytes) :
    Membership :=
  let bound := ((w.setEndpointInfo address).bind (p.b64Encode signingKey) address.id).2
  { bound.insertMember address.id with
    issuers := IssuerRegistry.insert w.issuers signingKey
    discovered := Insert.insert address.id w.discovered
    pinned := signingKey :: w.pinned }

def runPeerDiscovery (p : IrohPlatform) (localEndpoint : Bytes) (w : Membership)
    (record : EndpointRecord) (signingKey : Bytes) (pinAccepted : Bool) (nowSecs : UInt64) :
    Membership :=
  match discoverPeer p record signingKey pinAccepted nowSecs with
  | .error _ => w
  | .ok (address, signingKey) =>
    if address.id = localEndpoint then w else w.recordPeer p address signingKey

def step (p : IrohPlatform) (localEndpoint : Bytes) (w : Membership) :
    MembershipEvent → Option Membership
  | .announcement record nowSecs => some (w.admitAnnouncedPeer p record nowSecs)
  | .discovery record signingKey pinAccepted nowSecs =>
    some (w.runPeerDiscovery p localEndpoint record signingKey pinAccepted nowSecs)

end Membership

namespace MembershipEvent

def record : MembershipEvent → EndpointRecord
  | .announcement record _ | .discovery record _ _ _ => record

def nowSecs : MembershipEvent → UInt64
  | .announcement _ nowSecs | .discovery _ _ _ nowSecs => nowSecs

end MembershipEvent

namespace Membership

inductive Stepped (p : IrohPlatform) (localEndpoint : Bytes) (w : Membership) :
    MembershipEvent → Membership → Prop
  | ignored : Stepped p localEndpoint w a w
  | admitted {now : UInt64} {record : EndpointRecord} {address : EndpointAddr}
    (haddr : record.endpointAddr p now = .ok address)
    (hconflict : record.endpointId ∈ w.members →
      w.memberIssuers.lookup record.signingPubkey = some record.endpointId)
    (hbound : (w.memberIssuers.bind record.signingPubkey record.endpointId).1 = true) :
    Stepped p localEndpoint w (.announcement record now)
      (((w.bind record.signingPubkey record.endpointId).2.setEndpointInfo address).insertMember
        record.endpointId)
  | found {record : EndpointRecord} {address : EndpointAddr} {signingKey : Bytes}
    (haddr : record.endpointAddr p now = .ok address)
    (hkey : p.b64Encode signingKey = record.signingPubkey)
    (hremote : address.id ≠ localEndpoint) :
    Stepped p localEndpoint w (.discovery record signingKey pinAccepted now)
      (w.recordPeer p address signingKey)

theorem step_cases (hs : step p localEndpoint w a = some w') : Stepped p localEndpoint w a w' := by
  cases a with
  | announcement record now =>
    cases hs
    unfold admitAnnouncedPeer
    split
    · exact .ignored
    · next address ha =>
      split
      · exact .ignored
      · next hc =>
        cases hb : (w.memberIssuers.bind record.signingPubkey record.endpointId).1 with
        | false =>
          simp only [bind, hb]
          exact .ignored
        | true =>
          have hp : w.bind record.signingPubkey record.endpointId =
              (true, (w.bind record.signingPubkey record.endpointId).2) := by
            simp only [bind, hb]
          rw [hp]
          apply Stepped.admitted ha _ hb
          intro hm
          by_contra hbn
          apply hc
          refine ⟨hm, ?_⟩
          rw [MemberIssuers.matchesEndpoint, beq_eq_false_iff_ne]
          exact hbn
  | discovery record sk pinAccepted now =>
    cases hs
    unfold runPeerDiscovery
    split
    · exact .ignored
    · next address key hf =>
      obtain ⟨ha, hsm, hk⟩ := discoverPeer_ok hf
      subst hsm
      split
      · exact .ignored
      · next hr => exact .found ha hk hr

variable {p : IrohPlatform} {localEndpoint m : Bytes} {w w' : Membership} {a : MembershipEvent}
  {record : EndpointRecord}

def Announced (w : Membership) (m : Bytes) : Prop :=
  m ∈ w.members ∧ m ∉ w.configured ∧ m ∉ w.discovered

def Accounted (w : Membership) : Prop :=
  ∀ m, w.Announced m → ∃ key, w.memberIssuers.lookup key = some m

def WritesMembers (w w' : Membership) : Prop :=
  ∀ m, w'.addresses.lookup m ≠ w.addresses.lookup m → m ∈ w'.members

/-- The address of a member, or the keys that speak for it, are changed only by a record that a key
bound to it signed. -/
def ChangedByOwner (p : IrohPlatform) (w : Membership) (a : MembershipEvent) (w' : Membership) :
    Prop :=
  ∀ m ∈ w.members, (w'.addresses.lookup m ≠ w.addresses.lookup m ∨
      ∃ key, ¬(w'.memberIssuers.lookup key = some m ↔ w.memberIssuers.lookup key = some m)) →
    a.record.verify p.toPlatform a.nowSecs = .ok () ∧
    w.memberIssuers.lookup a.record.signingPubkey = some m

/-- The key of the record is not the only one that speaks for another announced member. -/
def Unmoved (w : Membership) (record : EndpointRecord) : Prop :=
  ∀ old, w.memberIssuers.lookup record.signingPubkey = some old → old ≠ record.endpointId →
    w.Announced old → ∃ key, key ≠ record.signingPubkey ∧ w.memberIssuers.lookup key = some old

def Placed (w : Membership) (record : EndpointRecord) : Prop :=
  record.endpointId ∈ w.members ∨ w.members.card < maxConvergedMembers

def Orderly (w : Membership) : MembershipEvent → Prop
  | .announcement record _ => w.Unmoved record ∧ w.Placed record
  | .discovery record _ _ _ => w.Unmoved record ∧ w.Placed record ∧
      (record.endpointId ∈ w.members →
        w.memberIssuers.lookup record.signingPubkey = some record.endpointId)

theorem accounted_bind (h : w.Accounted) (hmv : w.Unmoved record) (hm : w.Announced m)
    (hne : m ≠ record.endpointId) :
    ∃ key, (w.memberIssuers.bind record.signingPubkey record.endpointId).2.lookup key = some m := by
  obtain ⟨key, hky⟩ := h m hm
  rcases w.memberIssuers.bind_cases record.signingPubkey record.endpointId with
    ⟨_, hs⟩ | ⟨_, _, ho⟩
  · exact ⟨key, by rw [hs]; exact hky⟩
  · by_cases hk : key = record.signingPubkey
    · subst hk
      obtain ⟨oth, hot, hb⟩ := hmv m hky hne hm
      exact ⟨oth, (ho oth hot).trans hb⟩
    · exact ⟨key, (ho key hk).trans hky⟩

theorem Accounted.step (h : w.Accounted) (ha : w.Orderly a)
    (hs : step p localEndpoint w a = some w') : w'.Accounted := by
  cases step_cases hs with
  | ignored => exact h
  | @admitted _ record _ had _ hb =>
    intro m hm
    by_cases hne : m = record.endpointId
    · subst hne
      rcases w.memberIssuers.bind_cases record.signingPubkey record.endpointId with
        ⟨hr, _⟩ | ⟨_, hsl, _⟩
      · rw [hb] at hr
        cases hr
      · exact ⟨record.signingPubkey, hsl⟩
    · apply accounted_bind h ha.1 ⟨_, hm.2.1, hm.2.2⟩ hne
      exact (MemberRegistry.mem_insert hm.1).resolve_left hne
  | @found _ _ record address sk had hk =>
    have hid := (EndpointRecord.endpointAddr_ok had).2
    intro m hm
    have hne : m ≠ record.endpointId := by
      rintro rfl
      apply hm.2.2
      rw [← hid]
      exact Finset.mem_insert_self _ _
    have hmm : m ∈ w.members := by
      apply (MemberRegistry.mem_insert hm.1).resolve_left
      rw [hid]
      exact hne
    have ho : w.Announced m := ⟨hmm, hm.2.1, fun hd => hm.2.2 (Finset.mem_insert_of_mem hd)⟩
    show ∃ key, (w.memberIssuers.bind (p.b64Encode sk) address.id).2.lookup key = some m
    rw [hk, hid]
    exact accounted_bind h ha.1 ho hne

theorem reach_accounted (h : Reach (step p localEndpoint) Orderly (start seed keys) w) :
    w.Accounted := by
  apply Reach.invariant Accounted _ _ h
  · intro m hm
    exact absurd hm.1 hm.2.1
  · intro w a w' _ ih ha hs
    exact ih.step ha hs

theorem Orderly.placed (h : w.Orderly a) : w.Placed a.record := by
  cases a with
  | announcement record now => exact h.2
  | discovery record sk pinAccepted now => exact h.2.1

theorem eq_of_lookup_ne {id : Bytes} {addresses : AList fun _ : Bytes => EndpointAddr}
    (h : (addresses.insert id address).lookup m ≠ addresses.lookup m) : m = id := by
  by_contra hne
  exact h (AList.lookup_insert_ne hne)

theorem writesMembers_of_placed (ha : w.Placed a.record)
    (hs : step p localEndpoint w a = some w') : WritesMembers w w' := by
  intro m hm
  cases step_cases hs with
  | ignored => exact absurd rfl hm
  | admitted had =>
    have hid := (EndpointRecord.endpointAddr_ok had).2
    have hmd := eq_of_lookup_ne hm
    subst hmd
    rw [hid]
    exact MemberRegistry.mem_insert_self ha
  | found had =>
    have hid := (EndpointRecord.endpointAddr_ok had).2
    have hmd := eq_of_lookup_ne hm
    subst hmd
    apply MemberRegistry.mem_insert_self
    rw [hid]
    exact ha

theorem bound_of_changed (w : Membership) (record : EndpointRecord)
    (hcn : m = record.endpointId → m ∈ w.members →
      w.memberIssuers.lookup record.signingPubkey = some m) (hmm : m ∈ w.members)
    (hc : ¬((w.memberIssuers.bind record.signingPubkey record.endpointId).2.lookup key = some m ↔
      w.memberIssuers.lookup key = some m)) :
    w.memberIssuers.lookup record.signingPubkey = some m := by
  rcases w.memberIssuers.bind_cases record.signingPubkey record.endpointId with
    ⟨_, hs⟩ | ⟨_, hsl, ho⟩
  · rw [hs] at hc
    exact absurd Iff.rfl hc
  · by_cases hk : key = record.signingPubkey
    · subst hk
      by_cases hm : m = record.endpointId
      · exact hcn hm hmm
      · by_contra hbn
        apply hc
        constructor
        · intro hn
          rw [hsl] at hn
          exact absurd (Option.some.inj hn).symm hm
        · exact fun hb => absurd hb hbn
    · rw [ho key hk] at hc
      exact absurd Iff.rfl hc

theorem changedByOwner_of_orderly (ha : w.Orderly a) (hs : step p localEndpoint w a = some w') :
    ChangedByOwner p w a w' := by
  intro m hmm hc
  cases step_cases hs with
  | ignored =>
    rcases hc with hc | ⟨key, hc⟩
    · exact absurd rfl hc
    · exact absurd Iff.rfl hc
  | @admitted _ record _ had hcn =>
    obtain ⟨hv, hid⟩ := EndpointRecord.endpointAddr_ok had
    refine ⟨hv, ?_⟩
    rcases hc with hc | ⟨key, hc⟩
    · have hm := eq_of_lookup_ne hc
      subst hm
      rw [hid] at hmm ⊢
      exact hcn hmm
    · apply bound_of_changed w record _ hmm hc
      rintro rfl hmm
      exact hcn hmm
  | @found _ _ record _ _ had hk =>
    obtain ⟨hv, hid⟩ := EndpointRecord.endpointAddr_ok had
    refine ⟨hv, ?_⟩
    rcases hc with hc | ⟨key, hc⟩
    · have hm := eq_of_lookup_ne hc
      subst hm
      rw [hid] at hmm ⊢
      exact ha.2.2 hmm
    · have hb : ¬((w.memberIssuers.bind record.signingPubkey record.endpointId).2.lookup key =
          some m ↔ w.memberIssuers.lookup key = some m) := by
        rw [← hk, ← hid]
        exact hc
      apply bound_of_changed w record _ hmm hb
      rintro rfl hmm
      exact ha.2.2 hmm

variable {address : EndpointAddr}

theorem admitAnnouncedPeer_of_new (ha : record.endpointAddr p now = .ok address)
    (hn : record.endpointId ∉ w.members)
    (hb : (w.memberIssuers.bind record.signingPubkey record.endpointId).1 = true) :
    w.admitAnnouncedPeer p record now =
      ((w.bind record.signingPubkey record.endpointId).2.setEndpointInfo address).insertMember
        record.endpointId := by
  have hp : w.bind record.signingPubkey record.endpointId =
      (true, (w.bind record.signingPubkey record.endpointId).2) := by
    simp only [bind, hb]
  simp only [admitAnnouncedPeer, ha]
  rw [if_neg (fun h => hn h.1), hp]

theorem not_accounted_of_moved {now : UInt64}
    (had : record.endpointAddr p now = .ok address) (hn : record.endpointId ∉ w.members)
    (hm : ¬w.Unmoved record) : ¬(w.admitAnnouncedPeer p record now).Accounted := by
  simp only [Unmoved, not_forall, not_exists, not_and] at hm
  obtain ⟨old, hol, hne, ha, hon⟩ := hm
  have hb := MemberIssuers.bind_of_bound hol record.endpointId
  rw [admitAnnouncedPeer_of_new had hn hb]
  intro hac
  have hs : old ∈ MemberRegistry.insert w.members record.endpointId := by
    unfold MemberRegistry.insert
    split
    · exact ha.1
    · split
      · exact ha.1
      · exact Finset.mem_insert_of_mem ha.1
  obtain ⟨key, hky⟩ := hac old ⟨hs, ha.2⟩
  have hky : (w.memberIssuers.bind record.signingPubkey record.endpointId).2.lookup key =
    some old := hky
  rcases w.memberIssuers.bind_cases record.signingPubkey record.endpointId with
    ⟨hr, _⟩ | ⟨_, hsl, ho⟩
  · rw [hb] at hr
    cases hr
  · by_cases hk : key = record.signingPubkey
    · subst hk
      rw [hsl] at hky
      exact hne (Option.some.inj hky).symm
    · rw [ho key hk] at hky
      exact hon key hk hky

theorem not_writesMembers_of_full {now : UInt64}
    (ha : record.endpointAddr p now = .ok address) (hf : ¬w.Placed record)
    (hb : (w.memberIssuers.bind record.signingPubkey record.endpointId).1 = true)
    (hc : w.addresses.lookup record.endpointId ≠ some address) :
    ¬WritesMembers w (w.admitAnnouncedPeer p record now) := by
  simp only [Placed, not_or, Nat.not_lt] at hf
  rw [admitAnnouncedPeer_of_new ha hf.1 hb]
  intro hw
  have hid := (EndpointRecord.endpointAddr_ok ha).2
  have hm : record.endpointId ∈ MemberRegistry.insert w.members record.endpointId := by
    apply hw record.endpointId
    intro hs
    apply hc
    rw [← hs, ← hid]
    exact AList.lookup_insert w.addresses
  rw [MemberRegistry.insert_of_full hf.1 hf.2] at hm
  exact hf.1 hm

theorem not_changedByOwner_of_discovered
    (hf : discoverPeer p record sk pinAccepted now = .ok (address, key))
    (hr : address.id ≠ localEndpoint) (hm : record.endpointId ∈ w.members)
    (hfr : w.memberIssuers.lookup record.signingPubkey ≠ some record.endpointId)
    (hc : w.addresses.lookup record.endpointId ≠ some address) :
    ¬ChangedByOwner p w (.discovery record sk pinAccepted now)
      (w.runPeerDiscovery p localEndpoint record sk pinAccepted now) := by
  intro ho
  have hid := (EndpointRecord.endpointAddr_ok (discoverPeer_ok hf).1).2
  have hw : (w.runPeerDiscovery p localEndpoint record sk pinAccepted
      now).addresses.lookup record.endpointId = some address := by
    simp only [runPeerDiscovery, hf, if_neg hr]
    rw [← hid]
    exact AList.lookup_insert w.addresses
  apply hfr
  apply (ho record.endpointId hm (.inl _)).2
  rw [hw]
  exact hc.symm

/-- As long as no key moves away from a member that only it spoke for, no endpoint is announced or
discovered with all places taken, and no member is discovered under a key that is not bound to it:
every announced member is the endpoint of some key, addresses are written for members only, and
what is recorded of a member is changed by its own key only. Each condition is needed. -/
theorem announced_members_bound (p : IrohPlatform) (localEndpoint : Bytes) :
    (∀ seed keys w, Reach (step p localEndpoint) Orderly (start seed keys) w →
      w.Accounted ∧ ∀ a w', w.Orderly a → step p localEndpoint w a = some w' →
        WritesMembers w w' ∧ ChangedByOwner p w a w') ∧
    (∀ (w : Membership) (record : EndpointRecord) now address,
      record.endpointAddr p now = .ok address → record.endpointId ∉ w.members → ¬w.Unmoved record →
      ¬(w.admitAnnouncedPeer p record now).Accounted) ∧
    (∀ (w : Membership) (record : EndpointRecord) now address,
      record.endpointAddr p now = .ok address → ¬w.Placed record →
      (w.memberIssuers.bind record.signingPubkey record.endpointId).1 = true →
      w.addresses.lookup record.endpointId ≠ some address →
      ¬WritesMembers w (w.admitAnnouncedPeer p record now)) ∧
    (∀ (w : Membership) (record : EndpointRecord) signingKey pinAccepted now address key,
      discoverPeer p record signingKey pinAccepted now = .ok (address, key) →
      address.id ≠ localEndpoint → record.endpointId ∈ w.members →
      w.memberIssuers.lookup record.signingPubkey ≠ some record.endpointId →
      w.addresses.lookup record.endpointId ≠ some address →
      ¬ChangedByOwner p w (.discovery record signingKey pinAccepted now)
        (w.runPeerDiscovery p localEndpoint record signingKey pinAccepted now)) := by
  refine ⟨?_, ?_, ?_, ?_⟩
  · intro seed keys w h
    refine ⟨reach_accounted h, ?_⟩
    intro a w' ha hs
    exact ⟨writesMembers_of_placed ha.placed hs, changedByOwner_of_orderly ha hs⟩
  · intro w record now address had hn hm
    exact not_accounted_of_moved had hn hm
  · intro w record now address had hfl hb hc
    exact not_writesMembers_of_full had hfl hb hc
  · intro w record signingKey pinAccepted now address key hfn hr hmm hf hc
    exact not_changedByOwner_of_discovered hfn hr hmm hf hc

def sampleIroh : IrohPlatform where
  toPlatform := Placement.samplePlatform
  validEndpointId _ := true
  parseRelayUrl := some

theorem announced_members_bound_sample :
    ∃ w, Reach (step sampleIroh []) Orderly (start ∅ []) w ∧
      w.Announced (List.replicate 32 1) ∧ w.Accounted := by
  have ho : (start ∅ []).Orderly (.announcement (Placement.sampleEndpoint 1) 100) := by
    refine ⟨?_, .inr (by decide)⟩
    intro old hol
    cases hol
  have hr : Reach (step sampleIroh []) Orderly (start ∅ [])
      ((start ∅ []).admitAnnouncedPeer sampleIroh (Placement.sampleEndpoint 1) 100) :=
    .next .start ho rfl
  refine ⟨_, hr, ?_, ((announced_members_bound sampleIroh []).1 ∅ [] _ hr).1⟩
  exact ⟨by decide +kernel, by decide +kernel, by decide +kernel⟩

/-- A scheduler announces a second endpoint id under its key; the first one stays a member for which
no key speaks. -/
theorem reannounced_key_leaves_member :
    ∃ w, Reach (step sampleIroh []) always (start ∅ []) w ∧
      w.Announced (List.replicate 32 1) ∧ w.Announced (List.replicate 32 2) ∧ ¬w.Accounted := by
  obtain ⟨w, hr, hf, hs, hc, hd, hk⟩ := exists_reach_of_run
    (step sampleIroh []) always (start ∅ [])
    [.announcement (Placement.sampleEndpoint 1) 100, .announcement (Placement.sampleEndpoint 2) 101]
    (fun w => List.replicate 32 1 ∈ w.members ∧ List.replicate 32 2 ∈ w.members ∧
      w.configured = ∅ ∧ w.discovered = ∅ ∧
      ∀ e ∈ w.memberIssuers.entries, e.2 ≠ List.replicate 32 1) (by decide +kernel)
  have ha : ∀ m, m ∈ w.members → w.Announced m := by
    intro m hm
    refine ⟨hm, ?_, ?_⟩
    · rw [hc]
      exact Finset.notMem_empty m
    · rw [hd]
      exact Finset.notMem_empty m
  refine ⟨w, hr, ha _ hf, ha _ hs, ?_⟩
  intro hac
  obtain ⟨key, hky⟩ := hac _ (ha _ hf)
  exact hk ⟨key, _⟩ (AList.mem_lookup_iff.1 hky) rfl

end Membership
end Podmesh
