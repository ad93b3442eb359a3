import Podmesh.Proxy.Directory
import Podmesh.Proxy.Reference

namespace Podmesh

theorem length_take_of_all {l : List α} (test : α → Bool) (n : Nat)
    (h : ∀ a ∈ l.take n, test a = true) : (l.take n).length = min n (l.filter test).length := by
  have hp : (l.take n).filter test = l.take n := List.filter_eq_self.2 h
  have hle : (l.take n).length ≤ (l.filter test).length := by
    rw [← hp]
    exact ((List.take_sublist n l).filter test).length_le
  have ht : (l.filter test).length ≤ l.length := List.length_filter_le test l
  rw [List.length_take] at hle ⊢
  omega

def EndpointRecord.Checked (p : Platform) (latest : Nat) (record : EndpointRecord) : Prop :=
  ∃ t : UInt64, t.toNat ≤ latest ∧ record.verify p t = .ok ()

theorem EndpointRecord.Checked.mono {rcd : EndpointRecord} (h : rcd.Checked p latest)
    (hle : latest ≤ later) : rcd.Checked p later := by
  obtain ⟨t, ht, hv⟩ := h
  exact ⟨t, ht.trans hle, hv⟩

namespace Directory
variable {node : ProxyNode} {d d' : Directory} {id : Nat} {task : DirectoryTask}

/-- Everything in the table, or on its way there, was checked; those who ask have endpoint ids. -/
structure Verified (node : ProxyNode) (d : Directory) : Prop where
  known : ∀ k record, d.known.lookup k = some record →
    record.Checked node.platform.toPlatform d.verifiedAt
  announcing : ∀ id remote record replies,
    d.tasks.lookup id = some (.announcing remote record replies) →
    record.Checked node.platform.toPlatform d.verifiedAt
  listing : ∀ id remote limit authorized,
    d.tasks.lookup id = some (.listing remote limit authorized) → limit ≤ maxProxyEndpoints ∧
      ∀ name, validateEndpointId node.endpointId name = .ok () ∧
        validateEndpointId remote name = .ok ()

theorem Verified.of_task (hd : d.Verified node) (hkn : d'.known = d.known)
    (ht : d'.tasks = d.tasks.insert id task) (hl : d.verifiedAt ≤ d'.verifiedAt)
    (ha : ∀ rem rcd replies, task = .announcing rem rcd replies →
      rcd.Checked node.platform.toPlatform d'.verifiedAt)
    (hls : ∀ rem limit authorized, task = .listing rem limit authorized →
      limit ≤ maxProxyEndpoints ∧ ∀ name, validateEndpointId node.endpointId name = .ok () ∧
        validateEndpointId rem name = .ok ()) : d'.Verified node where
  known k rcd hk := by
    rw [hkn] at hk
    exact (hd.known k rcd hk).mono hl
  announcing id' rem rcd replies hk := by
    rw [ht] at hk
    rcases Assoc.lookup_insert_cases hk with ⟨_, he⟩ | ⟨_, hk⟩
    · exact ha rem rcd replies he.symm
    · exact (hd.announcing id' rem rcd replies hk).mono hl
  listing id' rem limit authorized hk := by
    rw [ht] at hk
    rcases Assoc.lookup_insert_cases hk with ⟨_, he⟩ | ⟨_, hk⟩
    · exact hls rem limit authorized he.symm
    · exact hd.listing id' rem limit authorized hk

theorem checkAnnounced_ok {p : DirectoryPlatform}
    (h : p.checkAnnounced mismatch undecoded unbound rem acc = .ok record) :
    acc.payload.endpoint = record := by
  obtain ⟨_, h⟩ := unit_bind_ok.1 h
  obtain ⟨_, _, h⟩ := bind_ok.1 h
  obtain ⟨_, h⟩ := unit_bind_ok.1 h
  cases h
  rfl

section
variable (hd : d.Verified node)
include hd

theorem Verified.announce
    (hc : ∀ acc rcd, check acc = .ok rcd → acc.payload.endpoint = rcd) :
    (d.announce node id (node.platform.announcement payloadType) check rem replies pay
      nowMs obs).Verified node := by
  refine hd.of_task rfl rfl (Nat.le_max_left _ _) ?_ ?_
  · intro rem' rcd replies' he
    split at he
    · next rcd' hok =>
      cases he
      obtain ⟨acc, ha, hr⟩ := bind_ok.1 hok
      obtain ⟨env, _, hrd⟩ := acceptWorkloadPayload_ok ha
      rw [← hc acc rcd hr]
      exact ⟨nowMs / 1000, Nat.le_max_right _ _, hrd.valid⟩
    · cases he
  · intro rem' limit authorized he
    split at he <;> cases he

theorem Verified.discover :
    (d.discover node id link pay nowMs obs keyNow tenantNow grantNow).Verified node := by
  unfold Directory.discover
  dsimp only
  split
  · refine hd.of_task rfl rfl (Nat.le_refl _) ?_ ?_
    · intro rem rcd replies he
      cases he
    · intro rem limit authorized he
      cases he
  · next req hok =>
    obtain ⟨acc, ha, hok⟩ := bind_ok.1 hok
    obtain ⟨_, hok⟩ := unit_bind_ok.1 hok
    cases hok
    obtain ⟨env, hop, hr⟩ := acceptWorkloadPayload_ok ha
    refine hd.of_task rfl rfl (Nat.le_refl _) ?_ ?_
    · intro rem rcd replies he
      cases he
    · intro rem limit authorized he
      cases he
      obtain ⟨_, hl⟩ := unit_bind_ok.1 hr.valid
      have hl := ensure_ok.1 hl
      rw [Bool.and_eq_true, decide_eq_true_eq] at hl
      have ho := openEnvelope_ok.1 hop
      exact ⟨hl.2, fun name => ⟨validateEndpointId_ok ho.localEndpoint name,
        validateEndpointId_ok ho.remoteEndpoint name⟩⟩

theorem Verified.write (hk : d.tasks.lookup id = some (.announcing rem rcd replies)) :
    (d.write node id rem rcd replies nonce nowMs).Verified node := by
  have hr := hd.announcing id rem rcd replies hk
  have ht : Verified node { d with
      tasks := (d.write node id rem rcd replies nonce nowMs).tasks } := by
    refine hd.of_task rfl rfl (Nat.le_refl _) ?_ ?_
    · intro rem' rcd' replies' he
      cases he
    · intro rem' limit authorized he
      cases he
  refine ⟨fun k rcd' hk' => ?_, ht.announcing, ht.listing⟩
  rcases Assoc.lookup_insert_cases hk' with ⟨_, rfl⟩ | ⟨_, ho⟩
  · exact hr
  · exact hd.known k rcd' ho

theorem Verified.step (hs : d.step node a = some d') : d'.Verified node := by
  cases a with
  | proxy a =>
    obtain ⟨proxy, _, rfl⟩ := Option.map_eq_some_iff.1 hs
    exact ⟨hd.known, hd.announcing, hd.listing⟩
  | announce id link pay nowMs obs =>
    obtain ⟨served, _, rfl⟩ := Option.map_eq_some_iff.1 hs
    exact hd.announce fun _ _ => checkAnnounced_ok
  | learn id rem pay nowMs obs =>
    simp only [Directory.step] at hs
    split at hs
    · cases hs
    · cases hs
      exact hd.announce fun _ _ => checkAnnounced_ok
  | discover id link pay nowMs obs keyNow tenantNow grantNow =>
    obtain ⟨served, _, rfl⟩ := Option.map_eq_some_iff.1 hs
    exact hd.discover
  | write id nonce nowMs =>
    simp only [Directory.step] at hs
    split at hs
    · next hk =>
      cases hs
      exact hd.write hk
    · cases hs
  | list id order nonce nowMs =>
    simp only [Directory.step] at hs
    split at hs
    · split at hs
      · cases hs
        refine hd.of_task rfl rfl (Nat.le_refl _) ?_ ?_
        · intro rem rcd replies he
          cases he
        · intro rem limit authorized he
          cases he
      · cases hs
    · cases hs
  | refresh rcd now =>
    simp only [Directory.step] at hs
    split at hs
    · cases hs
      exact ⟨hd.known, hd.announcing, hd.listing⟩
    · cases hs
      exact hd

end

theorem start_known {p : DirectoryPlatform} {P : EndpointRecord → Prop}
    {configured : List EndpointRecord} {known : AList fun _ : String => EndpointRecord}
    (hc : ∀ record ∈ configured, P record)
    (hkn : ∀ k record, known.lookup k = some record → P record) (k : String)
    (record : EndpointRecord)
    (hk : (configured.foldl (fun known record =>
      match p.endpointIdOf record.endpointId with
      | some id => known.insert id record
      | none => known) known).lookup k = some record) : P record := by
  induction configured generalizing known with
  | nil => exact hkn k record hk
  | cons first rest ih =>
    obtain ⟨hf, hr⟩ := List.forall_mem_cons.1 hc
    refine ih hr ?_ hk
    intro k' record' hk'
    dsimp only at hk'
    split at hk'
    · rcases Assoc.lookup_insert_cases hk' with ⟨_, rfl⟩ | ⟨_, hk'⟩
      · exact hf
      · exact hkn k' record' hk'
    · exact hkn k' record' hk'

theorem start_verified {own : EndpointRecord}
    (h : node.start replay configured own now = .ok d) : d.Verified node := by
  obtain ⟨_, h⟩ := unit_bind_ok.1 h
  obtain ⟨hc, h⟩ := unit_bind_ok.1 h
  rw [forEach_ok] at hc
  cases h
  refine ⟨?_, fun _ _ _ _ hk => (by cases hk), fun _ _ _ _ hk => (by cases hk)⟩
  intro k rcd hk
  have hv := start_known hc (fun _ _ hk => by cases hk) k rcd hk
  exact ⟨now, Nat.le_refl _, hv⟩

def liveOthers (node : ProxyNode) (d : Directory) (remote : String) (now : UInt64) :
    List EndpointRecord :=
  ((d.known.entries.map (·.2)).filter fun record =>
    record.endpointId != node.platform.endpointIdBytes remote).filter fun record =>
      now.toNat ≤ record.expiresAtSecs.toNat

def Answers (d : Directory) (id n : Nat) (now : UInt64) : Prop :=
  ∃ endpoints reply, d.tasks.lookup id = some (.answered endpoints (.ok reply)) ∧
    endpoints.length = n ∧ ∀ record ∈ endpoints, now.toNat ≤ record.expiresAtSecs.toNat

variable {limit : Nat}

theorem length_endpoints {order : List (Σ _ : String, EndpointRecord)}
    (ho : order.Perm d.known.entries)
    (hl : ∀ rcd ∈ node.endpoints order rem limit, now.toNat ≤ rcd.expiresAtSecs.toNat) :
    (node.endpoints order rem limit).length = min limit (d.liveOthers node rem now).length := by
  have ht : ∀ rcd ∈ node.endpoints order rem limit,
      decide (now.toNat ≤ rcd.expiresAtSecs.toNat) = true := by
    intro rcd hr
    exact decide_eq_true (hl rcd hr)
  have hc := length_take_of_all _ limit ht
  have hp := (((ho.map (·.2)).filter fun rcd =>
    rcd.endpointId != node.platform.endpointIdBytes rem).filter fun rcd =>
      decide (now.toNat ≤ rcd.expiresAtSecs.toNat)).length_eq
  rw [hp] at hc
  exact hc

end Directory

structure ProxyNode.Keyed (node : ProxyNode) : Prop where
  signing : node.signingPublic.length = 32
  kem : node.kemPublic.length = 32

theorem ProxyNode.parts_valid {node : ProxyNode} (hk : node.Keyed)
    (hl : ∀ name, validateEndpointId node.endpointId name = .ok ())
    (hr : ∀ name, validateEndpointId rem name = .ok ()) (hn : nonce ≠ "")
    (hs : nonce.utf8ByteSize ≤ 128) (nowMs : UInt64) :
    (node.parts rem nonce nowMs).validate = .ok () := by
  simp only [WorkloadEnvelopeParts.validate, ProxyNode.parts, hl, hr, unit_bind_ok,
    ensure_ok, validateKey, hk.signing, hk.kem, hs, Bool.and_eq_true, bne_iff_ne,
    decide_eq_true_eq, BEq.rfl, true_and, and_true]
  exact hn

namespace Directory
variable {node : ProxyNode} {d d₀ : Directory} {id : Nat} {own : EndpointRecord} {limit : Nat}

/-- In every run, whatever was announced, an authorized request is answered with as many unexpired
proxies as are known, up to its limit, exactly if no expired one comes first in the order in which
the table is read and the answer is within the limits of its type. -/
theorem discovery_answers_iff (hkeys : node.Keyed)
    (hstart : node.start replay configured own now = .ok d₀)
    (hr : Reach (fun d a => step node d a) always d₀ d)
    (htask : d.tasks.lookup id = some (.listing remote limit true)) (nowMillis : UInt64)
    (hlater : d.verifiedAt ≤ (nowMillis / 1000).toNat) (nonce : String) (hnonce : nonce ≠ "")
    (hsize : nonce.utf8ByteSize ≤ 128) {order : List (Σ _ : String, EndpointRecord)}
    (horder : order.Perm d.known.entries) :
    ∃ d', step node d (.list id order nonce nowMillis) = some d' ∧
      (d'.Answers id (min limit (d.liveOthers node remote (nowMillis / 1000)).length)
          (nowMillis / 1000) ↔ (∀ record ∈ node.endpoints order remote limit,
          (nowMillis / 1000).toNat ≤ record.expiresAtSecs.toNat) ∧
        ∃ bytes, enclose node.platform.toEnvelopePlatform node.platform.discoveryResponse
          (node.parts remote nonce nowMillis) ⟨node.endpoints order remote limit⟩ = .ok bytes) := by
  have hv : d.Verified node := Reach.invariant (fun d => d.Verified node)
    (start_verified hstart) (fun _ _ _ _ hd _ hs => hd.step hs) hr
  obtain ⟨hlm, hi⟩ := hv.listing id remote limit true htask
  have hp := ProxyNode.parts_valid hkeys (fun name => (hi name).1)
    (fun name => (hi name).2) hnonce hsize nowMillis
  have hst : step node d (.list id order nonce nowMillis) =
      some (d.list node id remote limit true order nonce nowMillis) := by
    simp [step, htask, List.isPerm_iff.2 horder]
  refine ⟨_, hst, ?_⟩
  constructor
  · rintro ⟨eps, bytes, ha, _, hl⟩
    simp only [list, AList.lookup_insert, Option.some.injEq, DirectoryTask.answered.injEq,
      if_true] at ha
    obtain ⟨rfl, hrp⟩ := ha
    obtain ⟨_, hrp⟩ := unit_bind_ok.1 hrp
    obtain ⟨_, hrp⟩ := unit_bind_ok.1 hrp
    exact ⟨hl, bytes, hrp⟩
  · rintro ⟨hl, bytes, he⟩
    have hvl : validateEndpointRecords node.platform.toPlatform
        (node.endpoints order remote limit) (nowMillis / 1000) = .ok () := by
      refine unit_bind_ok.2 ⟨?_, forEach_ok.2 fun record hrc => ?_⟩
      · exact ensure_ok.2 (decide_eq_true ((List.length_take_le _ _).trans hlm))
      · obtain ⟨⟨k, _⟩, hen, rfl⟩ :=
          List.mem_map.1 (List.mem_filter.1 (List.mem_of_mem_take hrc)).1
        have hk := AList.mem_lookup_iff.2 (horder.mem_iff.1 hen)
        obtain ⟨t, ht, hvr⟩ := hv.known k _ hk
        exact (EndpointRecord.verify_later hvr (ht.trans hlater)).2 (hl _ hrc)
    have hrp : sealWorkloadPayload node.platform.toEnvelopePlatform
        node.platform.discoveryResponse (node.parts remote nonce nowMillis)
        ⟨node.endpoints order remote limit⟩ = .ok bytes :=
      unit_bind_ok.2 ⟨hp, unit_bind_ok.2 ⟨hvl, he⟩⟩
    refine ⟨node.endpoints order remote limit, bytes, ?_, length_endpoints horder hl, hl⟩
    simp [list, hrp]

end Directory
/-! A proxy with one tenant, and two proxies that announce themselves; the record of the first one
expires at time 120. -/
namespace DirectoryReference
open ProxyReference (peer signer)

def record (n : UInt8) : EndpointRecord where
  version := endpointRecordVersion
  endpointId := (utf8Bytes (peer n)).take 32
  relayUrl := none
  directAddresses := ["127.0.0.1:7000"]
  signingPubkey := Reference.b64Encode (signer n)
  issuedAtSecs := 100
  expiresAtSecs := if n = 5 then 120 else 1000
  signature := Reference.b64Encode (Reference.signature (signer n))

def envelope (kind n k nonce : UInt8) : Envelope :=
  match kind with
  | 3 => { ProxyReference.envelope kind n k nonce with
      payloadType := WorkloadPayloadType.proxyDiscoveryRequest.wireName, tsMillis := 140000 }
  | 4 => { ProxyReference.envelope kind n k nonce with
      payloadType := WorkloadPayloadType.proxyAnnouncementRequest.wireName }
  | _ => ProxyReference.envelope kind n k nonce

def platform : DirectoryPlatform where
  toProxyPlatform := { ProxyReference.platform with
    decodeEnvelope
      | [kind, n, k, nonce] => .ok (envelope kind n k nonce)
      | _ => .error "invalid envelope" }
  encodeDiscovery _ := .ok []
  decodeDiscovery _ := .ok ⟨Reference.owner 1, 2⟩
  encodeEndpoints _ := .ok []
  decodeEndpoints _ := .error "not used"
  encodeAnnouncement _ := .ok []
  decodeAnnouncement
    | [n] => .ok ⟨record n⟩
    | _ => .error "invalid announcement"
  endpointIdBytes id := (utf8Bytes id).take 32
  endpointIdOf _ := none

def node : ProxyNode where
  platform := platform
  endpointId := ProxyReference.localId
  signingPublic := signer 7
  signingPrivate := signer 7
  kemPublic := signer 7

def start : Directory := ⟨ProxyReference.start, ∅, record 7, ∅, 100⟩

theorem start_eq : node.start ⟨.default, .empty⟩ [] (record 7) 100 = .ok start := rfl

def announces (n : UInt8) (id link : Nat) : List DirectoryAction :=
  [.proxy (.connect link (peer n) link), .proxy (.link link .enter), .proxy (.link link .start),
    .announce id link [4, n, n, 1] 100000 0, .write id "nonce" 100000]

def asks : List DirectoryAction :=
  (ProxyReference.arrive 1 1 0 ++ [ProxyAction.submitGrant (Reference.owner 1) [3, 1] 100]).map
    DirectoryAction.proxy ++
    [.discover 1 1 [3, 1, 1, 2] 140000 0 140 140 140]

theorem enclose_eq :
    enclose node.platform.toEnvelopePlatform node.platform.discoveryResponse parts resp =
      .ok [] := by
  refine bind_ok.2 ⟨[], rfl, unit_bind_ok.2 ⟨ensure_ok.2 (by decide), bind_ok.2 ⟨_, rfl, ?_⟩⟩⟩
  exact bind_ok.2 ⟨[], rfl, unit_bind_ok.2 ⟨ensure_ok.2 (by decide), rfl⟩⟩

def isListing (d : Directory) : Bool :=
  match d.tasks.lookup 1 with
  | some (.listing remote limit authorized) => remote == peer 1 && limit == 2 && authorized
  | _ => false

theorem isListing_eq (h : isListing d = true) :
    d.tasks.lookup 1 = some (.listing (peer 1) 2 true) := by
  unfold isListing at h
  split at h
  · next rem limit authorized ht =>
    simp only [Bool.and_eq_true, beq_iff_eq] at h
    obtain ⟨⟨rfl, rfl⟩, rfl⟩ := h
    exact ht
  · cases h

def failed (d : Directory) : Bool :=
  match d.tasks.lookup 1 with
  | some (.answered _ (.error _)) => true
  | _ => false

theorem failed_eq (h : failed d = true) :
    ∃ eps error, d.tasks.lookup 1 = some (.answered eps (.error error)) := by
  unfold failed at h
  split at h
  · next eps error ht => exact ⟨eps, error, ht⟩
  · cases h

end DirectoryReference

open DirectoryReference

/-- An endpoint without a tenant announces itself; once its record has expired, the answer to a
tenant fails although another proxy is known and live. -/
theorem expired_announcement_blocks_discovery :
    ∃ d d' endpoints error,
      Reach (fun d a => Directory.step node d a) always start
        d ∧
      d.tasks.lookup 1 = some (.listing (ProxyReference.peer 1) 2 true) ∧ d.verifiedAt ≤ 140 ∧
      Directory.step node d (.list 1 d.known.entries "nonce" 140000) = some d' ∧
      d'.tasks.lookup 1 = some (.answered endpoints (.error error)) ∧
      (d.liveOthers node (ProxyReference.peer 1) 140).length = 1 := by
  obtain ⟨d, hr, hl, hlt, hc, d', hs, hf⟩ := exists_reach_of_run
    (fun d a => Directory.step node d a) always start (announces 5 5 5 ++ announces 6 6 6 ++ asks)
    (fun d => isListing d ∧ d.verifiedAt ≤ 140 ∧
      (d.liveOthers node (ProxyReference.peer 1) 140).length = 1 ∧
      ∃ d', Directory.step node d (.list 1 d.known.entries "nonce" 140000) = some d' ∧ failed d')
    (by decide +kernel)
  obtain ⟨endpoints, error, ht⟩ := failed_eq hf
  exact ⟨d, d', endpoints, error, hr, isListing_eq hl, hlt, hs, ht, hc⟩

/-- With a live announcement alone, the tenant gets its answer. -/
theorem discovery_answers_live :
    ∃ d d', Directory.step node d (.list 1 d.known.entries "nonce" 140000) =
        some d' ∧ d'.Answers 1 1 140 := by
  obtain ⟨d, hr, hl, hlt, hc, hlv⟩ := exists_reach_of_run
    (fun d a => Directory.step node d a) always start (announces 6 6 6 ++ asks)
    (fun d => isListing d ∧ d.verifiedAt ≤ 140 ∧
      (d.liveOthers node (ProxyReference.peer 1) 140).length = 1 ∧
      ∀ record ∈ node.endpoints d.known.entries (ProxyReference.peer 1) 2,
        140 ≤ record.expiresAtSecs.toNat) (by decide +kernel)
  obtain ⟨d', hs, hi⟩ := Directory.discovery_answers_iff ⟨rfl, rfl⟩
    start_eq hr (isListing_eq hl) 140000 hlt "nonce"
    (by decide) (by decide) (List.Perm.refl _)
  have ha := hi.2 ⟨hlv, [], enclose_eq⟩
  rw [show (140000 / 1000 : UInt64) = 140 from rfl, hc] at ha
  exact ⟨d, d', hs, ha⟩

end Podmesh
