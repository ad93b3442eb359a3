import Podmesh.Protocol.ReplayRegistry

namespace Podmesh

structure PeerNonces.Kept (limit clock : Nat) (peer : PeerNonces) : Prop where
  wellFormed : peer.WellFormed
  sorted : peer.Sorted
  bounded : peer.order.length ≤ limit
  past : ∀ nonce recorded, peer.map.lookup nonce = some recorded → recorded ≤ clock

namespace PeerNonces
variable {peer : PeerNonces}

theorem Kept.later (h : peer.Kept limit clock) (ht : clock ≤ now) : peer.Kept limit now :=
  { h with past := fun nonce rcd hr => Nat.le_trans (h.past nonce rcd hr) ht }

theorem expired_antitone (now retention x y : Nat) (hxy : x ≤ y)
    (hy : expired now retention y = true) : expired now retention x = true := by
  simp only [expired, decide_eq_true_eq] at hy ⊢
  omega

theorem Kept.lookup_pruneExpired (h : peer.Kept limit clock) :
    (peer.pruneExpired now retention).map.lookup nonce = some rcd ↔
      peer.map.lookup nonce = some rcd ∧ now - rcd < retention := by
  rw [pruneExpired,
    Queued.lookup_pruneFront h.wellFormed h.sorted (expired_antitone now retention), expired,
    decide_eq_false_iff_not, Nat.not_le]

theorem Kept.pruneExpired (h : peer.Kept limit clock) (now retention : Nat) :
    (peer.pruneExpired now retention).Kept limit clock := by
  have ho := Queued.pruneFront_order_sublist (expired now retention) h.wellFormed
  have hl : ∀ nonce recorded, (peer.pruneExpired now retention).map.lookup nonce
      = some recorded → peer.map.lookup nonce = some recorded :=
    fun nonce recorded => Queued.lookup_of_pruneFront h.wellFormed
  exact {
    wellFormed := h.wellFormed.pruneFront _
    sorted := h.sorted.mono ho hl
    bounded := Nat.le_trans ho.length_le h.bounded
    past := fun nonce recorded hr => h.past nonce recorded (hl nonce recorded hr) }

theorem Kept.empty (limit clock : Nat) : Kept limit clock .empty where
  wellFormed := .empty
  sorted := List.Pairwise.nil
  bounded := Nat.zero_le _
  past := by
    intro nonce rcd h
    cases h

theorem lookup_of_makeRoom (h : (peer.makeRoom limit).map.lookup nonce = some recorded) :
    peer.map.lookup nonce = some recorded := by
  rw [makeRoom] at h
  split at h
  · rw [(Queued.evict_spec peer).2] at h
    split at h
    · cases h
    · exact h
  · exact h

theorem Kept.makeRoom (h : peer.Kept limit clock) (hlm : 1 ≤ limit) :
    (peer.makeRoom limit).Kept (limit - 1) clock := by
  obtain ⟨ho, _⟩ := Queued.evict_spec peer
  have hl : ∀ nonce recorded, (peer.makeRoom limit).map.lookup nonce = some recorded →
      peer.map.lookup nonce = some recorded := fun nonce recorded => lookup_of_makeRoom
  have hp : ∀ nonce recorded, (peer.makeRoom limit).map.lookup nonce = some recorded →
      recorded ≤ clock := fun nonce recorded hr => h.past nonce recorded (hl nonce recorded hr)
  rw [PeerNonces.makeRoom] at hl hp ⊢
  have hln := h.bounded
  split at hl
  · next hf =>
    rw [if_pos hf] at hp ⊢
    refine ⟨h.wellFormed.evict, h.sorted.mono ?_ hl, ?_, hp⟩
    · rw [ho]
      exact List.tail_sublist _
    · rw [ho, List.length_tail]
      omega
  · next hrm =>
    rw [if_neg hrm] at hp ⊢
    exact ⟨h.wellFormed, h.sorted, by omega, hp⟩

theorem Kept.insert (h : peer.Kept limit clock) (hlm : 1 ≤ limit) (ht : clock ≤ now)
    (hn : peer.map.lookup nonce = none) : (peer.insert nonce now limit).Kept limit now := by
  have hrm := h.makeRoom hlm
  have hf : (peer.makeRoom limit).map.lookup nonce = none := by
    cases hl : (peer.makeRoom limit).map.lookup nonce with
    | none => rfl
    | some rcd =>
      rw [lookup_of_makeRoom hl] at hn
      cases hn
  have hp := (hrm.later ht).past
  have hln := hrm.bounded
  refine ⟨hrm.wellFormed.push hf now, hrm.sorted.push hrm.wellFormed hf hp, ?_, ?_⟩
  · rw [PeerNonces.insert, Queued.push, List.length_append, List.length_singleton]
    omega
  · intro oth rcd hr
    rcases Assoc.lookup_insert_cases hr with ⟨_, rfl⟩ | ⟨_, hr⟩
    · exact Nat.le_refl _
    · exact hp oth rcd hr

end PeerNonces

structure ReplayState.Kept (limits : ReplayLimits) (clock : Nat) (state : ReplayState) : Prop where
  wellFormed : state.WellFormed
  bounded : state.order.length ≤ limits.maxPeers
  peers : ∀ peerId peer, state.map.lookup peerId = some peer →
    peer.Kept limits.noncesPerPeer clock

namespace ReplayState
variable {state : ReplayState}

theorem Kept.later (h : state.Kept limits clock) (ht : clock ≤ now) : state.Kept limits now :=
  { h with peers := fun pid peer hp => (h.peers pid peer hp).later ht }

theorem Kept.empty (limits : ReplayLimits) (clock : Nat) : Kept limits clock .empty where
  wellFormed := .empty
  bounded := Nat.zero_le _
  peers := by
    intro pid peer h
    cases h

theorem lookup_pruneExpiredPeers :
    (state.pruneExpiredPeers now retention).map.lookup pid = some peer ↔
      ∃ old, state.map.lookup pid = some old ∧ peer = old.pruneExpired now retention ∧
        peer.map.entries.isEmpty = false := by
  rw [pruneExpiredPeers, Queued.refine, Assoc.lookup_retain, Option.filter_eq_some_iff,
    Assoc.lookup_mapValues, Option.map_eq_some_iff, Bool.not_eq_true']
  constructor
  · rintro ⟨⟨old, ho, rfl⟩, hs⟩
    exact ⟨old, ho, rfl, hs⟩
  · rintro ⟨old, ho, rfl, hs⟩
    exact ⟨⟨old, ho, rfl⟩, hs⟩

theorem Kept.pruneExpiredPeers (h : state.Kept limits clock) (now retention : Nat) :
    (state.pruneExpiredPeers now retention).Kept limits clock where
  wellFormed := h.wellFormed.refine _ _
  bounded := Nat.le_trans (List.length_filter_le _ _) h.bounded
  peers := by
    intro pid peer hp
    obtain ⟨old, ho, rfl, _⟩ := lookup_pruneExpiredPeers.1 hp
    exact (h.peers pid old ho).pruneExpired now retention

def settled (state : ReplayState) (limits : ReplayLimits) (now : Nat) : ReplayState :=
  if limits.maxPeers ≤ Assoc.size state.map then state.pruneExpiredPeers now limits.retention
  else state

theorem makeRoom_eq (state : ReplayState) (limits : ReplayLimits) (now : Nat) :
    state.makeRoom limits now = if limits.maxPeers ≤ Assoc.size (state.settled limits now).map
      then (state.settled limits now).evict else state.settled limits now := rfl

theorem Kept.settled (h : state.Kept limits clock) (now : Nat) :
    (state.settled limits now).Kept limits clock := by
  rw [ReplayState.settled]
  split
  · exact h.pruneExpiredPeers now limits.retention
  · exact h

theorem settled_none (h : state.map.lookup pid = none) (limits : ReplayLimits) (now : Nat) :
    (state.settled limits now).map.lookup pid = none := by
  rw [settled]
  split
  · cases hl : (state.pruneExpiredPeers now limits.retention).map.lookup pid with
    | none => rfl
    | some peer =>
      obtain ⟨old, ho, _⟩ := lookup_pruneExpiredPeers.1 hl
      rw [h] at ho
      cases ho
  · exact h

theorem Kept.makeRoom (h : state.Kept limits clock) (hv : limits.Valid) (now : Nat) :
    (state.makeRoom limits now).Kept limits clock ∧
      (state.makeRoom limits now).order.length < limits.maxPeers ∧
      ∀ pid peer, (state.makeRoom limits now).map.lookup pid = some peer →
        (state.settled limits now).map.lookup pid = some peer := by
  have hs := h.settled now
  obtain ⟨ho, hl⟩ := Queued.evict_spec (state.settled limits now)
  have hln := hs.bounded
  have hm := hv.maxPeers
  rw [makeRoom_eq, hs.wellFormed.size_eq]
  split
  · have hol : ∀ pid peer, (state.settled limits now).evict.map.lookup pid = some peer →
        (state.settled limits now).map.lookup pid = some peer := by
      intro pid peer hp
      rw [hl] at hp
      split at hp
      · cases hp
      · exact hp
    refine ⟨⟨hs.wellFormed.evict, ?_, fun pid peer hp =>
      hs.peers pid peer (hol pid peer hp)⟩, ?_, hol⟩
    · rw [ho, List.length_tail]
      omega
    · rw [ho, List.length_tail]
      omega
  · exact ⟨hs, by omega, fun pid peer hp => hp⟩

end ReplayState

namespace PeerReplayRegistry
variable {limits : ReplayLimits}

theorem record_kept {state : ReplayState} (hv : limits.Valid) (h : state.Kept limits clock)
    (ht : clock ≤ now) (peerId nonce : String) :
    (record limits state peerId nonce now).2.Kept limits now := by
  -- replacing the queue of a tracked peer changes nothing else
  have hr : ∀ peer peer', state.map.lookup peerId = some peer →
      peer'.Kept limits.noncesPerPeer now →
      ReplayState.Kept limits now ⟨state.map.insert peerId peer', state.order⟩ := by
    intro peer peer' hp hpr
    refine ⟨⟨h.wellFormed.nodup, fun other => ?_⟩, h.bounded, fun other old hol => ?_⟩
    · rw [h.wellFormed.mem other]
      by_cases ho : other = peerId
      · subst ho
        simp [hp]
      · rw [AList.lookup_insert_ne ho]
    · rcases Assoc.lookup_insert_cases hol with ⟨_, rfl⟩ | ⟨_, hol⟩
      · exact hpr
      · exact (h.peers other old hol).later ht
  rw [record]
  split
  · next peer hp =>
    have hpn := (h.peers peerId peer hp).pruneExpired now limits.retention
    dsimp only
    split
    · exact hr peer _ hp (hpn.later ht)
    · next hn =>
      exact hr peer _ hp (hpn.insert hv.noncesPerPeer ht (by simpa using hn))
  · next hp =>
    obtain ⟨hrm, hln, hol⟩ := h.makeRoom hv now
    have hn : (state.makeRoom limits now).map.lookup peerId = none := by
      cases hl : (state.makeRoom limits now).map.lookup peerId with
      | none => rfl
      | some peer =>
        have hs := hol peerId peer hl
        rw [ReplayState.settled_none hp limits now] at hs
        cases hs
    refine ⟨hrm.wellFormed.push hn _, ?_, fun other peer hpr => ?_⟩
    · dsimp [Queued.push]
      rw [List.length_append, List.length_singleton]
      omega
    · rcases Assoc.lookup_insert_cases hpr with ⟨_, rfl⟩ | ⟨_, hpr⟩
      · exact (PeerNonces.Kept.empty _ clock).insert hv.noncesPerPeer ht rfl
      · exact (hrm.peers other peer hpr).later ht

def evictedPeer (limits : ReplayLimits) (state : ReplayState) (peerId : String) (now : Nat) :
    Option String :=
  match state.map.lookup peerId with
  | some _ => none
  | none =>
    if limits.maxPeers ≤ Assoc.size (state.settled limits now).map
    then (state.settled limits now).order.head? else none

def evictedNonce (limits : ReplayLimits) (state : ReplayState) (peerId nonce : String) (now : Nat) :
    Option String :=
  match state.map.lookup peerId with
  | some peer =>
    let pruned := peer.pruneExpired now limits.retention
    if (pruned.map.lookup nonce).isNone && limits.noncesPerPeer ≤ pruned.order.length
    then pruned.order.head? else none
  | none => none

def Remembers (state : ReplayState) (peerId nonce : String) (recorded : Nat) : Prop :=
  ∃ peer, state.map.lookup peerId = some peer ∧ peer.map.lookup nonce = some recorded

theorem record_remembers {state : ReplayState} (h : state.Kept limits clock)
    (hr : Remembers state peerId nonce recorded) (ha : now - recorded < limits.retention)
    (hpe : evictedPeer limits state callPeer now ≠ some peerId)
    (hnn : callPeer = peerId → evictedNonce limits state callPeer callNonce now ≠ some nonce) :
    Remembers (record limits state callPeer callNonce now).2 peerId nonce recorded := by
  obtain ⟨peer, hp, hn⟩ := hr
  have hk : ∀ peer, state.map.lookup peerId = some peer →
      peer.map.lookup nonce = some recorded →
      (peer.pruneExpired now limits.retention).map.lookup nonce = some recorded := by
    intro peer hp hn
    exact (h.peers peerId peer hp).lookup_pruneExpired.2 ⟨hn, ha⟩
  by_cases hc : callPeer = peerId
  · subst hc
    have hpr := hk peer hp hn
    have hnt := hnn rfl
    rw [evictedNonce, hp] at hnt
    rw [record, hp]
    dsimp only at hnt ⊢
    split
    · exact ⟨_, AList.lookup_insert _, hpr⟩
    · next hnw =>
      refine ⟨_, AList.lookup_insert _, ?_⟩
      have hne : nonce ≠ callNonce := by
        rintro rfl
        rw [hpr] at hnw
        exact hnw rfl
      rw [PeerNonces.insert, Queued.push, AList.lookup_insert_ne hne, PeerNonces.makeRoom]
      split
      · next hf =>
        have hno : ((peer.pruneExpired now limits.retention).map.lookup callNonce).isNone
            = true := by simpa using hnw
        rw [if_pos (by rw [hno, decide_eq_true hf]; rfl)] at hnt
        rw [(Queued.evict_spec _).2, if_neg hnt, hpr]
      · exact hpr
  · rw [record]
    split
    · next other ho =>
      dsimp only
      split <;> exact ⟨peer, (AList.lookup_insert_ne (Ne.symm hc)).trans hp, hn⟩
    · next ho =>
      rw [evictedPeer, ho] at hpe
      have hs : ∃ peer, (state.settled limits now).map.lookup peerId = some peer ∧
          peer.map.lookup nonce = some recorded := by
        rw [ReplayState.settled]
        split
        · refine ⟨_, ReplayState.lookup_pruneExpiredPeers.2 ⟨peer, hp, rfl, ?_⟩, hk peer hp hn⟩
          rw [List.isEmpty_eq_false_iff]
          exact List.ne_nil_of_mem (AList.mem_lookup_iff.1 (hk peer hp hn))
        · exact ⟨peer, hp, hn⟩
      obtain ⟨kept, hk, hn⟩ := hs
      refine ⟨kept, ?_, hn⟩
      rw [Queued.push, AList.lookup_insert_ne (Ne.symm hc), ReplayState.makeRoom_eq]
      split
      · next hf =>
        rw [if_pos hf] at hpe
        rw [(Queued.evict_spec _).2, if_neg hpe, hk]
      · exact hk

end PeerReplayRegistry

structure ReplayCall where
  peerId : String
  nonce : String
  now : Nat

namespace PeerReplayRegistry
variable {limits : ReplayLimits}

def call (self : PeerReplayRegistry) (c : ReplayCall) : Except String Unit × PeerReplayRegistry :=
  self.checkAndInsert c.peerId c.nonce c.now

/-- A call drops the nonce of a peer for capacity, by itself or with its peer. -/
def Evicts (self : PeerReplayRegistry) (c : ReplayCall) (peerId nonce : String) : Prop :=
  evictedPeer self.limits self.state c.peerId c.now = some peerId ∨
    c.peerId = peerId ∧ evictedNonce self.limits self.state c.peerId c.nonce c.now = some nonce

def timedCall (s : PeerReplayRegistry × Nat) (c : ReplayCall) : Option (PeerReplayRegistry × Nat) :=
  if s.2 ≤ c.now then some ((s.1.call c).2, c.now) else none

theorem call_eq (self : PeerReplayRegistry) (c : ReplayCall) :
    (∃ e, checkCall self.limits c.peerId c.nonce = .error e ∧ self.call c = (.error e, self)) ∨
      checkCall self.limits c.peerId c.nonce = .ok () ∧
        self.call c = ((record self.limits self.state c.peerId c.nonce c.now).1,
          { self with state := (record self.limits self.state c.peerId c.nonce c.now).2 }) := by
  rw [call, checkAndInsert]
  cases hc : checkCall self.limits c.peerId c.nonce with
  | error e => exact .inl ⟨e, rfl, rfl⟩
  | ok u => exact .inr ⟨rfl, rfl⟩

theorem call_limits (self : PeerReplayRegistry) (c : ReplayCall) :
    (self.call c).2.limits = self.limits := by
  rcases self.call_eq c with ⟨e, _, he⟩ | ⟨_, he⟩ <;> rw [he]

variable {self : PeerReplayRegistry}

theorem call_kept (hv : self.limits.Valid) (h : self.state.Kept self.limits clock)
    (ht : clock ≤ c.now) : (self.call c).2.state.Kept self.limits c.now := by
  rcases self.call_eq c with ⟨e, _, he⟩ | ⟨_, he⟩
  · rw [he]
    exact h.later ht
  · rw [he]
    exact record_kept hv h ht c.peerId c.nonce

theorem call_remembers (h : self.state.Kept self.limits clock)
    (hr : Remembers self.state peerId nonce recorded)
    (ha : c.now - recorded < self.limits.retention) (hnt : ¬self.Evicts c peerId nonce) :
    Remembers (self.call c).2.state peerId nonce recorded := by
  rcases self.call_eq c with ⟨e, _, he⟩ | ⟨_, he⟩
  · rw [he]
    exact hr
  · rw [he]
    exact record_remembers h hr ha (fun hp => hnt (.inl hp))
      (fun hc hn => hnt (.inr ⟨hc, hn⟩))

theorem reach_kept (hv : limits.Valid) (h : Reach timedCall ok (⟨limits, .empty⟩, start) s) :
    s.1.limits = limits ∧ s.1.state.Kept limits s.2 := by
  refine Reach.invariant (fun s => s.1.limits = limits ∧ s.1.state.Kept limits s.2)
    ⟨rfl, .empty limits start⟩ ?_ h
  rintro s c s' _ ⟨hl, hk⟩ _ hs
  rw [timedCall] at hs
  split at hs
  · next ht =>
    cases hs
    subst hl
    exact ⟨s.1.call_limits c, call_kept hv hk ht⟩
  · cases hs

theorem remembers_of_ok (hok : (self.call c).1 = .ok ()) :
    Remembers (self.call c).2.state c.peerId c.nonce c.now := by
  rcases self.call_eq c with ⟨e, _, he⟩ | ⟨_, he⟩
  · rw [he] at hok
    cases hok
  · rw [he] at hok ⊢
    rw [record] at hok ⊢
    split at hok
    · dsimp only at hok ⊢
      split at hok
      · cases hok
      · next hn =>
        simp only [hn]
        exact ⟨_, AList.lookup_insert _, AList.lookup_insert _⟩
    · exact ⟨_, AList.lookup_insert _, AList.lookup_insert _⟩

theorem refused_of_remembers (h : self.state.Kept self.limits clock)
    (hr : Remembers self.state pid nonce rcd) (hc : checkCall self.limits pid nonce = .ok ())
    (ha : now - rcd < self.limits.retention) :
    (self.checkAndInsert pid nonce now).1 = .error "envelope replay detected" := by
  obtain ⟨peer, hp, hn⟩ := hr
  have hpr := (h.peers pid peer hp).lookup_pruneExpired.2 ⟨hn, ha⟩
  simp [checkAndInsert, hc, record, hp, hpr]

end PeerReplayRegistry
end Podmesh
