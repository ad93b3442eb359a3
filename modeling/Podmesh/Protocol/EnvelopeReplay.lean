import Podmesh.Protocol.Envelope
import Podmesh.Protocol.ReplayIsolation

namespace Podmesh

def nanosPerMilli : Int := 1000000

structure AcceptCall where
  T : Type
  spec : WorkloadPayload T
  bytes : Bytes
  localId : String
  remoteId : String
  nowMillis : UInt64
  observedAt : Nat

open PeerReplayRegistry (evictedPeer evictedNonce Remembers call_limits call_remembers checkCall
  refused_of_remembers call_kept record call_eq)

variable {c : AcceptCall}

namespace AcceptCall

def answer (p : EnvelopePlatform) (c : AcceptCall) (replay : PeerReplayRegistry) :
    Except String (AcceptedWorkloadPayload c.T) × PeerReplayRegistry :=
  acceptWorkloadPayload p c.spec c.bytes c.localId c.remoteId c.nowMillis replay c.observedAt

def opened (p : EnvelopePlatform) (c : AcceptCall) (replay : PeerReplayRegistry) :
    Except String Envelope :=
  openEnvelope p c.spec.payloadType c.bytes c.localId c.remoteId c.nowMillis
    replay.limits.maxNonceBytes

def replayCall (c : AcceptCall) (envelope : Envelope) : ReplayCall :=
  ⟨c.remoteId, envelope.nonce, c.observedAt⟩

/-- The wall clock and the monotonic clock of the call are a fixed distance apart. -/
def InStep (offset : Int) (c : AcceptCall) : Prop :=
  (c.observedAt : Int) = c.nowMillis.toNat * nanosPerMilli + offset

/-- The call drops no nonce and no peer for capacity. -/
def Roomy (p : EnvelopePlatform) (replay : PeerReplayRegistry) (c : AcceptCall) : Prop :=
  ∀ envelope, c.opened p replay = .ok envelope →
    evictedPeer replay.limits replay.state c.remoteId c.observedAt = none ∧
    evictedNonce replay.limits replay.state c.remoteId envelope.nonce
      c.observedAt = none

theorem answer_of_unopened (ho : c.opened p replay = .error e) :
    c.answer p replay = (.error e, replay) := by
  simp only [opened] at ho
  simp [answer, acceptWorkloadPayload, ho]

theorem answer_of_refused (ho : c.opened p replay = .ok ev)
    (hc : replay.call (c.replayCall ev) = (.error e, replay')) :
    c.answer p replay = (.error e, replay') := by
  simp only [opened] at ho
  simp only [PeerReplayRegistry.call, replayCall] at hc
  simp [answer, acceptWorkloadPayload, ho, hc]

theorem answer_of_call (ho : c.opened p replay = .ok ev)
    (hc : replay.call (c.replayCall ev) = (.ok (), replay')) :
    c.answer p replay = (readPayload p c.spec ev c.nowMillis, replay') := by
  simp only [opened] at ho
  simp only [PeerReplayRegistry.call, replayCall] at hc
  simp [answer, acceptWorkloadPayload, ho, hc]

theorem answer_cases (p : EnvelopePlatform) (c : AcceptCall) (replay : PeerReplayRegistry) :
    (∃ e, c.answer p replay = (.error e, replay)) ∨ ∃ env, c.opened p replay = .ok env ∧
      (c.answer p replay).2 = (replay.call (c.replayCall env)).2 ∧
      ((c.answer p replay).1.isOk = true → (replay.call (c.replayCall env)).1 = .ok ()) := by
  cases ho : c.opened p replay with
  | error e => exact .inl ⟨e, answer_of_unopened ho⟩
  | ok env =>
    right
    rcases hc : replay.call (c.replayCall env) with ⟨ans, replay'⟩
    cases ans with
    | error e =>
      rw [answer_of_refused ho hc]
      exact ⟨env, rfl, by rw [hc], fun h => by cases h⟩
    | ok u =>
      rw [answer_of_call ho hc]
      exact ⟨env, rfl, by rw [hc], fun _ => by rw [hc]⟩

end AcceptCall

structure EnvelopeRun where
  registry : PeerReplayRegistry
  clock : Nat
  accepted : List (String × Bytes)

namespace EnvelopeRun
variable {c : AcceptCall} {limits : ReplayLimits}

def step (p : EnvelopePlatform) (s : EnvelopeRun) (c : AcceptCall) : Option EnvelopeRun :=
  if s.clock ≤ c.observedAt then
    some {
      registry := (c.answer p s.registry).2
      clock := c.observedAt
      accepted := if (c.answer p s.registry).1.isOk then (c.remoteId, c.bytes) :: s.accepted
        else s.accepted }
  else none

def Regular (p : EnvelopePlatform) (offset : Int) (s : EnvelopeRun) (c : AcceptCall) : Prop :=
  c.InStep offset ∧ c.Roomy p s.registry

/-- An accepted envelope was observed inside its window, and its nonce is on record since. -/
structure Recorded (p : EnvelopePlatform) (offset : Int) (s : EnvelopeRun) (peer : String)
    (bytes : Bytes) (envelope : Envelope) (observed : Nat) : Prop where
  decoded : p.decodeEnvelope bytes = .ok envelope
  opens : (envelope.tsMillis.toNat - maxEnvelopeDriftMs : Int) * nanosPerMilli + offset ≤ observed
  remembered : s.clock - observed < s.registry.limits.retention →
    Remembers s.registry.state peer envelope.nonce observed

structure Sound (p : EnvelopePlatform) (offset : Int) (limits : ReplayLimits) (s : EnvelopeRun) :
    Prop where
  configured : s.registry.limits = limits
  kept : s.registry.state.Kept limits s.clock
  recorded : ∀ a ∈ s.accepted, ∃ envelope observed, s.Recorded p offset a.1 a.2 envelope observed
  once : s.accepted.Nodup

theorem opened_window (hs : c.InStep offset) (ho : c.opened p replay = .ok env) :
    (env.tsMillis.toNat - maxEnvelopeDriftMs : Int) * nanosPerMilli + offset ≤ c.observedAt ∧
      c.observedAt ≤ (env.tsMillis.toNat + maxEnvelopeDriftMs : Int) * nanosPerMilli + offset := by
  have hd := (openEnvelope_ok.1 ho).drift
  rw [AcceptCall.InStep] at hs
  simp only [nanosPerMilli, maxEnvelopeDriftMs] at hs hd ⊢
  omega

theorem Recorded.answer {s : EnvelopeRun} (h : s.Recorded p offset peer bytes env observed)
    (hk : s.registry.state.Kept s.registry.limits s.clock) (ht : s.clock ≤ c.observedAt)
    (hr : c.Roomy p s.registry) (acc : List (String × Bytes)) :
    (⟨(c.answer p s.registry).2, c.observedAt, acc⟩ : EnvelopeRun).Recorded p offset peer bytes
      env observed := by
  refine ⟨h.decoded, h.opens, ?_⟩
  rcases c.answer_cases p s.registry with ⟨e, he⟩ | ⟨opened, ho, he, _⟩
  · rw [he]
    intro ha
    exact h.remembered (by dsimp only at ha; omega)
  · dsimp only
    rw [he, call_limits]
    intro ha
    have hb := h.remembered (by omega)
    apply call_remembers hk hb ha
    obtain ⟨hp, hn⟩ := hr opened ho
    rintro (hev | ⟨_, hev⟩)
    · rw [AcceptCall.replayCall, hp] at hev
      cases hev
    · rw [AcceptCall.replayCall, hn] at hev
      cases hev

theorem Sound.not_again {s : EnvelopeRun} (h : s.Sound p offset limits)
    (hrt : 2 * maxEnvelopeDriftMs * nanosPerMilli < limits.retention)
    (ht : s.clock ≤ c.observedAt) (hst : c.InStep offset)
    (hok : (c.answer p s.registry).1.isOk = true) : (c.remoteId, c.bytes) ∉ s.accepted := by
  intro hm
  obtain ⟨envelope, observed, hr⟩ := h.recorded _ hm
  rcases c.answer_cases p s.registry with ⟨e, he⟩ | ⟨opened, ho, _, hcl⟩
  · rw [he] at hok
    cases hok
  · have hs : opened = envelope := by
      have hd := (openEnvelope_ok.1 ho).decoded
      rw [hr.decoded] at hd
      cases hd
      rfl
    subst hs
    obtain ⟨_, hcs⟩ := opened_window hst ho
    have hop := hr.opens
    have hag : c.observedAt - observed < s.registry.limits.retention := by
      rw [h.configured]
      simp only [nanosPerMilli, maxEnvelopeDriftMs] at hrt hcs hop
      omega
    have hc : checkCall s.registry.limits c.remoteId opened.nonce
        = .ok () := by
      rcases s.registry.call_eq (c.replayCall opened) with ⟨e, _, he⟩ | ⟨hc, _⟩
      · have ha := hcl hok
        rw [he] at ha
        cases ha
      · exact hc
    have hk := h.kept
    rw [← h.configured] at hk
    have hrf := refused_of_remembers hk
      (hr.remembered (by omega)) hc hag
    have ha := hcl hok
    rw [PeerReplayRegistry.call, AcceptCall.replayCall, hrf] at ha
    cases ha

theorem Sound.step {s s' : EnvelopeRun} (h : s.Sound p offset limits) (hv : limits.Valid)
    (hr : 2 * maxEnvelopeDriftMs * nanosPerMilli < limits.retention)
    (hrg : s.Regular p offset c) (hs : s.step p c = some s') : s'.Sound p offset limits := by
  obtain ⟨hst, hrm⟩ := hrg
  have hk := h.kept
  rw [← h.configured] at hk hv
  rw [EnvelopeRun.step] at hs
  split at hs
  · next ht =>
    cases hs
    have hl : (c.answer p s.registry).2.limits = s.registry.limits := by
      rcases c.answer_cases p s.registry with ⟨e, he⟩ | ⟨opened, _, he, _⟩
      · rw [he]
      · rw [he, call_limits]
    have hk' : (c.answer p s.registry).2.state.Kept s.registry.limits c.observedAt := by
      rcases c.answer_cases p s.registry with ⟨e, he⟩ | ⟨opened, _, he, _⟩
      · rw [he]
        exact hk.later ht
      · rw [he]
        exact call_kept (c := c.replayCall opened) hv hk ht
    have hol : ∀ acc, ∀ a ∈ s.accepted, ∃ env observed,
        (⟨(c.answer p s.registry).2, c.observedAt, acc⟩ : EnvelopeRun).Recorded p offset a.1 a.2
          env observed := by
      intro acc a ha
      obtain ⟨env, observed, hrc⟩ := h.recorded a ha
      exact ⟨env, observed, hrc.answer hk ht hrm acc⟩
    rw [h.configured] at hl hk'
    by_cases hok : (c.answer p s.registry).1.isOk = true
    · simp only [hok, if_true]
      refine ⟨hl, hk', ?_, ?_⟩
      · intro a ha
        rcases List.mem_cons.1 ha with rfl | ha
        · rcases c.answer_cases p s.registry with ⟨e, he⟩ | ⟨opened, ho, he, hc⟩
          · rw [he] at hok
            cases hok
          · refine ⟨opened, c.observedAt, (openEnvelope_ok.1 ho).decoded, (opened_window hst ho).1, ?_⟩
            intro _
            rw [he]
            exact PeerReplayRegistry.remembers_of_ok (hc hok)
        · exact hol _ a ha
      · exact List.nodup_cons.2 ⟨h.not_again hr ht hst hok, h.once⟩
    · simp only [hok, Bool.false_eq_true, if_false]
      exact ⟨hl, hk', hol _, h.once⟩
  · cases hs

theorem reach_sound (hv : limits.Valid)
    (hr : 2 * maxEnvelopeDriftMs * nanosPerMilli < limits.retention)
    (h : Reach (step p) (Regular p offset) ⟨⟨limits, .empty⟩, start, []⟩ s) :
    s.Sound p offset limits := by
  have hf : Sound p offset limits ⟨⟨limits, .empty⟩, start, []⟩ :=
    ⟨rfl, .empty limits start, fun a ha => (by cases ha), List.nodup_nil⟩
  refine Reach.invariant (Sound p offset limits) hf ?_ h
  intro s c s' _ hs hrg hst
  exact hs.step hv hr hrg hst

end EnvelopeRun

namespace EnvelopeReference

def envelope : Envelope where
  version := 1
  payload := []
  payloadType := "podmesh.workload.ingress.response.v1"
  nonce := "nonce"
  tsMillis := 30000
  alg := "ed25519"
  senderId := String.ofList (List.replicate 64 'a')
  recipientId := String.ofList (List.replicate 64 'b')
  senderSigningPubkey := "key"
  senderKemPubkey := ""
  signature := "signature"

def platform : EnvelopePlatform where
  b64Encode bytes := if bytes.length = 32 then "key" else "signature"
  b64Decode text := if text = "key" then .ok (List.replicate 32 0) else .ok (List.replicate 64 0)
  canonical _ := .ok []
  signDomain _ _ _ := .ok []
  verifyDomain _ _ _ _ := .ok ()
  blake3Hex _ := ""
  parseSocketAddr _ := none
  encodeEnvelope _ := .ok []
  decodeEnvelope _ := .ok envelope

def call (nowMillis : UInt64) : AcceptCall where
  T := Unit
  spec := ⟨.ingressResponse, fun _ => .ok [], fun _ => .ok (), fun _ _ => .ok ()⟩
  bytes := [1]
  localId := envelope.recipientId
  remoteId := envelope.senderId
  nowMillis := nowMillis
  observedAt := nowMillis.toNat * 1000000

theorem opened (hn : nowMillis = 0 ∨ nowMillis = 60000)
    (h : minReplayNonceBytes ≤ replay.limits.maxNonceBytes) :
    (call nowMillis).opened platform replay = .ok envelope := by
  obtain ⟨⟨peers, nonces, bytes, retention⟩, state⟩ := replay
  obtain ⟨k, rfl⟩ : ∃ k, bytes = k + 5 := ⟨bytes - 5, by
    have hb : 36 ≤ bytes := h
    omega⟩
  rcases hn with rfl | rfl <;> rfl

theorem checked (h : minReplayNonceBytes ≤ limits.maxNonceBytes) :
    checkCall limits envelope.senderId envelope.nonce = .ok () := by
  obtain ⟨peers, nonces, bytes, retention⟩ := limits
  obtain ⟨k, rfl⟩ : ∃ k, bytes = k + 5 := ⟨bytes - 5, by
    have hb : 36 ≤ bytes := h
    omega⟩
  rfl

def seen : ReplayState := Queued.empty.push envelope.senderId (Queued.empty.push envelope.nonce 0)

theorem record_first (hv : limits.Valid) :
    record limits .empty envelope.senderId envelope.nonce 0 = (.ok (), seen) := by
  have hp : Assoc.size (Queued.empty : ReplayState).map < limits.maxPeers := hv.maxPeers
  have hn : ¬limits.noncesPerPeer ≤ (Queued.empty : PeerNonces).order.length :=
    Nat.not_le.2 hv.noncesPerPeer
  have hu : (Queued.empty : ReplayState).map.lookup envelope.senderId = none := rfl
  rw [record, hu]
  rw [PeerReplayRegistry.makeRoom_of_uncrowded hp, PeerNonces.insert, PeerNonces.makeRoom,
    if_neg hn]
  rfl

theorem pruned_late (hr : retention ≤ 60000000000) :
    PeerNonces.pruneExpired (Queued.empty.push envelope.nonce 0) 60000000000 retention
      = Queued.empty := by
  have he : PeerNonces.expired 60000000000 retention 0 = true := decide_eq_true hr
  have hl : (Queued.empty.push envelope.nonce 0 : PeerNonces).map.lookup envelope.nonce
      = some 0 := rfl
  have ho : (Queued.empty.push envelope.nonce 0 : PeerNonces).order = [envelope.nonce] := rfl
  rw [PeerNonces.pruneExpired, ho]
  simp only [Queued.pruneFront, hl, if_pos he]
  rfl

theorem record_second (hr : limits.retention ≤ 60000000000) :
    (record limits seen envelope.senderId envelope.nonce 60000000000).1 = .ok () := by
  have hk : seen.map.lookup envelope.senderId = some (Queued.empty.push envelope.nonce 0) := rfl
  have hg : (Queued.empty : PeerNonces).map.lookup envelope.nonce = none := rfl
  rw [record, hk]
  dsimp only
  rw [pruned_late hr, hg]
  rfl

theorem roomy_first (hv : limits.Valid) : (call 0).Roomy platform ⟨limits, .empty⟩ := by
  have hr : ¬limits.maxPeers ≤ Assoc.size (Queued.empty : ReplayState).map :=
    Nat.not_le.2 hv.maxPeers
  have hs : ReplayState.settled .empty limits 0 = Queued.empty := by
    rw [ReplayState.settled, if_neg hr]
  intro opened _
  refine ⟨?_, rfl⟩
  have hu : (Queued.empty : ReplayState).map.lookup (call 0).remoteId = none := rfl
  have hz : (call 0).observedAt = 0 := rfl
  rw [evictedPeer, hu, hz]
  rw [hs, if_neg hr]

theorem roomy_second (hv : limits.Valid) (hr : limits.retention ≤ 60000000000) :
    (call 60000).Roomy platform ⟨limits, seen⟩ := by
  have hrm : ¬limits.noncesPerPeer ≤ (Queued.empty : PeerNonces).order.length :=
    Nat.not_le.2 hv.noncesPerPeer
  have hk : seen.map.lookup (call 60000).remoteId
      = some (Queued.empty.push envelope.nonce 0) := rfl
  have hl : (call 60000).observedAt = 60000000000 := rfl
  intro opened _
  refine ⟨?_, ?_⟩
  · rw [evictedPeer, hk]
  · rw [evictedNonce, hk, hl]
    dsimp only
    rw [pruned_late hr, decide_eq_false hrm, Bool.and_false]
    rfl

theorem step_first (hv : limits.Valid) :
    EnvelopeRun.step platform ⟨⟨limits, .empty⟩, 0, []⟩ (call 0)
      = some ⟨⟨limits, seen⟩, 0, [(envelope.senderId, [1])]⟩ := by
  have hc : PeerReplayRegistry.call ⟨limits, .empty⟩ ((call 0).replayCall envelope)
      = (.ok (), ⟨limits, seen⟩) := by
    rcases call_eq ⟨limits, .empty⟩ ((call 0).replayCall envelope) with
      ⟨e, he, _⟩ | ⟨_, he⟩
    · cases (checked hv.maxNonceBytes).symm.trans he
    · have hr : record limits .empty ((call 0).replayCall envelope).peerId
          ((call 0).replayCall envelope).nonce ((call 0).replayCall envelope).now
          = (.ok (), seen) := record_first hv
      rw [he, hr]
  have ha := AcceptCall.answer_of_call (opened (.inl rfl) hv.maxNonceBytes) hc
  rw [EnvelopeRun.step, ha]
  rfl

theorem step_second (hv : limits.Valid) (hr : limits.retention ≤ 60000000000) :
    ∃ replay, EnvelopeRun.step platform ⟨⟨limits, seen⟩, 0, [(envelope.senderId, [1])]⟩ (call 60000)
      = some ⟨replay, 60000000000, [(envelope.senderId, [1]), (envelope.senderId, [1])]⟩ := by
  obtain ⟨replay, hc⟩ : ∃ replay,
      PeerReplayRegistry.call ⟨limits, seen⟩ ((call 60000).replayCall envelope)
        = (.ok (), replay) := by
    rcases call_eq ⟨limits, seen⟩ ((call 60000).replayCall envelope) with
      ⟨e, he, _⟩ | ⟨_, he⟩
    · cases (checked hv.maxNonceBytes).symm.trans he
    · rw [he]
      exact ⟨_, Prod.ext (record_second hr) rfl⟩
  have ha := AcceptCall.answer_of_call (opened (.inr rfl) hv.maxNonceBytes) hc
  refine ⟨replay, ?_⟩
  rw [EnvelopeRun.step, ha]
  rfl

theorem accepted_twice (hv : limits.Valid) (hr : limits.retention ≤ 60000000000) :
    ∃ s, Reach (EnvelopeRun.step platform) (EnvelopeRun.Regular platform 0)
      ⟨⟨limits, .empty⟩, 0, []⟩ s ∧ ¬s.accepted.Nodup := by
  obtain ⟨replay, hs⟩ := step_second hv hr
  have hf : EnvelopeRun.Regular platform 0 ⟨⟨limits, .empty⟩, 0, []⟩ (call 0) :=
    ⟨rfl, roomy_first hv⟩
  have hl : EnvelopeRun.Regular platform 0 ⟨⟨limits, seen⟩, 0, [(envelope.senderId, [1])]⟩
      (call 60000) := ⟨rfl, roomy_second hv hr⟩
  refine ⟨_, .next (.next .start hf (step_first hv)) hl hs, ?_⟩
  intro hn
  exact (List.nodup_cons.1 hn).1 List.mem_cons_self

end EnvelopeReference

/-- With limits that `validate` accepts, no run accepts an envelope twice from one peer exactly if
the retention is longer than the window in which the envelope passes as fresh. -/
theorem envelope_at_most_once_iff (limits : ReplayLimits) (registry : PeerReplayRegistry)
    (hnew : PeerReplayRegistry.new limits = .ok registry) :
    (∀ (p : EnvelopePlatform) (offset : Int) (start : Nat) (s : EnvelopeRun),
      Reach (EnvelopeRun.step p) (EnvelopeRun.Regular p offset) ⟨registry, start, []⟩ s →
      s.accepted.Nodup) ↔
    2 * maxEnvelopeDriftMs * nanosPerMilli < limits.retention := by
  obtain ⟨hv, rfl⟩ := PeerReplayRegistry.of_new hnew
  constructor
  · intro h
    by_contra hs
    have hr : limits.retention ≤ 60000000000 := by
      simp only [nanosPerMilli, maxEnvelopeDriftMs] at hs
      omega
    obtain ⟨s, hrc, ht⟩ := EnvelopeReference.accepted_twice hv hr
    exact ht (h _ 0 0 s hrc)
  · intro hrt p offset start s hrc
    exact (EnvelopeRun.reach_sound hv hrt hrc).once

theorem envelope_at_most_once_default :
    PeerReplayRegistry.new .default = .ok ⟨.default, .empty⟩ ∧
      ∀ (p : EnvelopePlatform) (offset : Int) (start : Nat) (s : EnvelopeRun),
        Reach (EnvelopeRun.step p) (EnvelopeRun.Regular p offset) ⟨⟨.default, .empty⟩, start, []⟩ s →
        s.accepted.Nodup :=
  ⟨rfl, (envelope_at_most_once_iff .default ⟨.default, .empty⟩ rfl).2 (by decide)⟩

def shortestRetention : ReplayLimits := { ReplayLimits.default with retention := minReplayRetention }

/-- An envelope stamped thirty seconds ahead is accepted on arrival and again sixty seconds later. -/
theorem shortest_retention_accepts_twice :
    PeerReplayRegistry.new shortestRetention = .ok ⟨shortestRetention, .empty⟩ ∧
      ∃ s, Reach (EnvelopeRun.step EnvelopeReference.platform)
          (EnvelopeRun.Regular EnvelopeReference.platform 0)
          ⟨⟨shortestRetention, .empty⟩, 0, []⟩ s ∧ ¬s.accepted.Nodup :=
  ⟨rfl, EnvelopeReference.accepted_twice ⟨by decide, by decide, by decide, by decide⟩ (by decide)⟩

end Podmesh
