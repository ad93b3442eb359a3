import Podmesh.Protocol.ReplayInvariant

namespace Podmesh

namespace PeerReplayRegistry
variable {limits : ReplayLimits}

def answers (self : PeerReplayRegistry) : List ReplayCall → List (ReplayCall × Except String Unit)
  | [] => []
  | c :: calls => (c, (self.call c).1) :: (self.call c).2.answers calls

def Uncrowded (self : PeerReplayRegistry) : List ReplayCall → Prop
  | [] => True
  | c :: calls => Assoc.size self.state.map < self.limits.maxPeers ∧ (self.call c).2.Uncrowded calls

structure Agree (peerId : String) (r r' : PeerReplayRegistry) : Prop where
  limits : r'.limits = r.limits
  same : r'.state.map.lookup peerId = r.state.map.lookup peerId
  alone : ∀ other, other ≠ peerId → r'.state.map.lookup other = none

variable {state : ReplayState}

theorem makeRoom_of_uncrowded (h : Assoc.size state.map < limits.maxPeers)
    (now : Nat) : state.makeRoom limits now = state := by
  have hr : ¬limits.maxPeers ≤ Assoc.size state.map := Nat.not_le.2 h
  have hs : state.settled limits now = state := by
    rw [ReplayState.settled, if_neg hr]
  rw [ReplayState.makeRoom_eq, hs, if_neg hr]

theorem record_other (h : Assoc.size state.map < limits.maxPeers)
    (hne : other ≠ peerId) (nonce : String) (now : Nat) :
    (record limits state peerId nonce now).2.map.lookup other = state.map.lookup other := by
  rw [record]
  split
  · dsimp only
    split <;> exact AList.lookup_insert_ne hne
  · rw [makeRoom_of_uncrowded h]
    exact AList.lookup_insert_ne hne

theorem record_congr (h : state.map.lookup peerId = none → Assoc.size state.map < limits.maxPeers)
    (h' : state'.map.lookup peerId = none → Assoc.size state'.map < limits.maxPeers)
    (hs : state'.map.lookup peerId = state.map.lookup peerId) (nonce : String) (now : Nat) :
    (record limits state' peerId nonce now).1 = (record limits state peerId nonce now).1 ∧
      (record limits state' peerId nonce now).2.map.lookup peerId
        = (record limits state peerId nonce now).2.map.lookup peerId := by
  rw [record, record, hs]
  cases hp : state.map.lookup peerId with
  | none =>
    rw [makeRoom_of_uncrowded (h hp), makeRoom_of_uncrowded (h' (hs.trans hp))]
    refine ⟨rfl, ?_⟩
    rw [Queued.push, Queued.push, AList.lookup_insert, AList.lookup_insert]
  | some peer =>
    dsimp only
    split <;> exact ⟨rfl, by rw [AList.lookup_insert, AList.lookup_insert]⟩

theorem Agree.size_zero (h : Agree pid r r') (hp : r'.state.map.lookup pid = none) :
    Assoc.size r'.state.map = 0 := by
  have he : Assoc.size r'.state.map ≤ Assoc.size (∅ : AList fun _ : String => PeerNonces) := by
    apply Assoc.size_le_of_lookup
    intro oth peer hpr
    by_cases ho : oth = pid
    · subst ho
      rw [hp] at hpr
      cases hpr
    · rw [h.alone oth ho] at hpr
      cases hpr
  exact Nat.le_zero.1 he

theorem Agree.other (h : Agree pid r r') (hr : Assoc.size r.state.map < r.limits.maxPeers)
    (hc : c.peerId ≠ pid) : Agree pid (r.call c).2 r' := by
  refine ⟨h.limits.trans (r.call_limits c).symm, ?_, h.alone⟩
  rcases r.call_eq c with ⟨e, _, he⟩ | ⟨_, he⟩
  · rw [he]
    exact h.same
  · rw [he]
    exact h.same.trans (record_other hr (Ne.symm hc) c.nonce c.now).symm

theorem Agree.own (h : Agree peerId r r') (hv : r.limits.Valid)
    (hr : Assoc.size r.state.map < r.limits.maxPeers) (hc : c.peerId = peerId) :
    (r'.call c).1 = (r.call c).1 ∧ Agree peerId (r.call c).2 (r'.call c).2 := by
  subst hc
  have hl : (r'.call c).2.limits = (r.call c).2.limits := by
    rw [call_limits, call_limits, h.limits]
  have hr' : r'.state.map.lookup c.peerId = none →
      Assoc.size r'.state.map < r.limits.maxPeers := by
    intro hp
    rw [h.size_zero hp]
    exact hv.maxPeers
  obtain ⟨ha, hlk⟩ := record_congr (fun _ => hr) hr' h.same c.nonce c.now
  have hcl := r.call_eq c
  have hcl' := r'.call_eq c
  rw [h.limits] at hcl'
  rcases hcl with ⟨e, hch, he⟩ | ⟨hch, he⟩
  · rcases hcl' with ⟨e', hc', he'⟩ | ⟨hc', _⟩
    · rw [hch] at hc'
      cases hc'
      rw [he, he']
      exact ⟨rfl, h⟩
    · rw [hch] at hc'
      cases hc'
  · rcases hcl' with ⟨e', hc', _⟩ | ⟨_, he'⟩
    · rw [hch] at hc'
      cases hc'
    · rw [he, he'] at hl ⊢
      refine ⟨ha, hl, hlk, fun other ho => ?_⟩
      -- the peer alone is written, and the others are still unknown
      have hot : (record r.limits r'.state c.peerId c.nonce c.now).2.map.lookup other
          = r'.state.map.lookup other := by
        rw [record]
        split
        · dsimp only
          split <;> exact AList.lookup_insert_ne ho
        · next hp =>
          rw [makeRoom_of_uncrowded (hr' hp)]
          exact AList.lookup_insert_ne ho
      exact hot.trans (h.alone other ho)

theorem Agree.answers (h : Agree pid r r') (hv : r.limits.Valid) (hr : r.Uncrowded calls) :
    (r.answers calls).filter (fun a => a.1.peerId = pid)
      = r'.answers (calls.filter fun c => c.peerId = pid) := by
  induction calls generalizing r r' with
  | nil => rfl
  | cons c calls ih =>
    obtain ⟨hn, hl⟩ := hr
    have hv' : (r.call c).2.limits.Valid := by
      rw [call_limits]
      exact hv
    by_cases hc : c.peerId = pid
    · obtain ⟨ha, hag⟩ := h.own hv hn hc
      rw [PeerReplayRegistry.answers, List.filter_cons_of_pos (by simpa using hc),
        List.filter_cons_of_pos (by simpa using hc), PeerReplayRegistry.answers, ha,
        ih hag hv' hl]
    · rw [PeerReplayRegistry.answers, List.filter_cons_of_neg (by simpa using hc),
        List.filter_cons_of_neg (by simpa using hc)]
      exact ih (h.other hn hc) hv' hl

theorem reach_remembers (hv : self.limits.Valid) (hk : self.state.Kept self.limits clock)
    (hr : Remembers self.state pid nonce rcd)
    (h : Reach timedCall (fun s d => ¬s.1.Evicts d pid nonce) (self, clock) s) :
    s.1.limits = self.limits ∧ s.1.state.Kept self.limits s.2 ∧
      (s.2 - rcd < self.limits.retention → Remembers s.1.state pid nonce rcd) := by
  refine Reach.invariant (fun s => s.1.limits = self.limits ∧ s.1.state.Kept self.limits s.2 ∧
    (s.2 - rcd < self.limits.retention → Remembers s.1.state pid nonce rcd))
    ⟨rfl, hk, fun _ => hr⟩ ?_ h
  rintro ⟨r, now⟩ c s' _ ⟨hl, hkp, hrm⟩ hn hs
  rw [timedCall] at hs
  split at hs
  · next ht =>
    cases hs
    rw [← hl] at hv hkp hrm ⊢
    refine ⟨r.call_limits c, call_kept hv hkp ht, fun ha => ?_⟩
    exact call_remembers hkp (hrm (by omega)) ha hn
  · cases hs

theorem of_new (h : PeerReplayRegistry.new limits = .ok registry) :
    limits.Valid ∧ registry = ⟨limits, .empty⟩ := by
  obtain ⟨limits', hl, h⟩ := bind_ok.1 h
  have hv := ReplayLimits.valid_of_validate hl
  obtain ⟨_, hl⟩ := unit_bind_ok.1 hl
  obtain ⟨_, hl⟩ := unit_bind_ok.1 hl
  obtain ⟨_, hl⟩ := unit_bind_ok.1 hl
  obtain ⟨_, hl⟩ := unit_bind_ok.1 hl
  cases hl
  cases h
  exact ⟨hv, rfl⟩

/-- The registry keeps its queues in order and within their limits, refuses what it has recorded,
and answers a peer as if it were alone while there is room. -/
theorem registry_isolates_peers (limits : ReplayLimits) (registry : PeerReplayRegistry)
    (hnew : PeerReplayRegistry.new limits = .ok registry) (start : Nat) :
    (∀ self clock, Reach timedCall always (registry, start) (self, clock) → self.state.order.Nodup ∧
      (∀ peerId, peerId ∈ self.state.order ↔ (self.state.map.lookup peerId).isSome = true) ∧
      self.state.order.length ≤ limits.maxPeers ∧
      ∀ peerId peer, self.state.map.lookup peerId = some peer → peer.order.Nodup ∧
        (∀ nonce, nonce ∈ peer.order ↔ (peer.map.lookup nonce).isSome = true) ∧
        peer.Sorted ∧ peer.order.length ≤ limits.noncesPerPeer) ∧
    (∀ self clock c self' clock' now,
      Reach timedCall always (registry, start) (self, clock) → clock ≤ c.now →
      (self.call c).1 = .ok () →
      Reach timedCall (fun s d => ¬s.1.Evicts d c.peerId c.nonce) ((self.call c).2, c.now)
        (self', clock') → clock' ≤ now → now - c.now < limits.retention →
      (self'.checkAndInsert c.peerId c.nonce now).1 = .error "envelope replay detected") ∧
    (∀ calls peerId, registry.Uncrowded calls →
      (registry.answers calls).filter (fun a => a.1.peerId = peerId)
        = registry.answers (calls.filter fun c => c.peerId = peerId)) := by
  obtain ⟨hv, rfl⟩ := of_new hnew
  refine ⟨?_, ?_, ?_⟩
  · intro self clock hr
    obtain ⟨_, hk⟩ := reach_kept hv hr
    refine ⟨hk.wellFormed.nodup, hk.wellFormed.mem, hk.bounded, fun peerId peer hp => ?_⟩
    have hpr := hk.peers peerId peer hp
    exact ⟨hpr.wellFormed.nodup, hpr.wellFormed.mem, hpr.sorted, hpr.bounded⟩
  · intro self clock c self' clock' now hr ht hok hb hlt ha
    obtain ⟨hl, hk⟩ := reach_kept hv hr
    subst hl
    have hc : checkCall self.limits c.peerId c.nonce = .ok () := by
      rcases self.call_eq c with ⟨e, _, he⟩ | ⟨hc, _⟩
      · rw [he] at hok
        cases hok
      · exact hc
    have hcl := call_kept hv hk ht
    rw [← self.call_limits c] at hv hcl ha hc
    obtain ⟨hl', hk', hrm⟩ := reach_remembers hv hcl (remembers_of_ok hok) hb
    rw [← hl'] at hk' hrm ha hc
    exact refused_of_remembers hk' (hrm (by omega)) hc ha
  · intro calls peerId hro
    exact Agree.answers ⟨rfl, rfl, fun oth _ => rfl⟩ hv hro

theorem registry_isolates_peers_default :
    ((((⟨.default, .empty⟩ : PeerReplayRegistry).call ⟨"peer", "nonce", 10⟩).2).checkAndInsert
      "peer" "nonce" 20).1 = .error "envelope replay detected" :=
  (registry_isolates_peers .default ⟨.default, .empty⟩ rfl 0).2.1 ⟨.default, .empty⟩ 0
    ⟨"peer", "nonce", 10⟩ _ 10 20 .start (by decide) rfl .start (by decide) (by decide)

end PeerReplayRegistry
end Podmesh
