import Podmesh.Scheduler.Query

namespace Podmesh

namespace QueryState

def Indexed (s : QueryState) : Prop :=
  ∀ criteria queryId, s.equivalent.lookup criteria = some queryId ↔
    ∃ pending, s.pending.lookup queryId = some pending ∧ pending.criteria = criteria

theorem Indexed.empty : QueryState.empty.Indexed := by
  intro crit qid
  constructor
  · intro h
    cases h
  · rintro ⟨pend, h, _⟩
    cases h

variable {s : QueryState}

theorem Indexed.injective (h : s.Indexed) (hq : s.pending.lookup queryId = some q)
    (hq' : s.pending.lookup queryId' = some q') (hc : q.criteria = q'.criteria) :
    queryId = queryId' := by
  have hf := (h q.criteria queryId).2 ⟨q, hq, rfl⟩
  have hs := (h q.criteria queryId').2 ⟨q', hq', hc.symm⟩
  rw [hf] at hs
  exact Option.some.inj hs

theorem Indexed.drop (h : s.Indexed) (hq : s.pending.lookup qid = some q) :
    (s.drop qid q.criteria).Indexed := by
  intro crit oth
  constructor
  · intro hl
    obtain ⟨hne, hl⟩ := Assoc.lookup_of_erase hl
    obtain ⟨q', hq', hc⟩ := (h crit oth).1 hl
    refine ⟨q', ?_, hc⟩
    apply (AList.lookup_erase_ne _).trans hq'
    rintro rfl
    rw [hq] at hq'
    cases hq'
    exact hne hc.symm
  · rintro ⟨q', hl, hc⟩
    obtain ⟨hne, hq'⟩ := Assoc.lookup_of_erase hl
    apply (AList.lookup_erase_ne _).trans ((h crit oth).2 ⟨q', hq', hc⟩)
    rintro rfl
    exact hne (h.injective hq' hq hc)

theorem Indexed.replace (h : s.Indexed) (hq : s.pending.lookup qid = some q)
    (hc : q'.criteria = q.criteria) :
    ({ s with pending := s.pending.insert qid q' } : QueryState).Indexed := by
  intro crit oth
  rw [h crit oth]
  constructor
  · rintro ⟨old, hol, rfl⟩
    by_cases ho : oth = qid
    · subst ho
      rw [hq] at hol
      cases hol
      exact ⟨q', AList.lookup_insert _, hc⟩
    · exact ⟨old, (AList.lookup_insert_ne ho).trans hol, rfl⟩
  · rintro ⟨new, hn, rfl⟩
    rcases Assoc.lookup_insert_cases hn with ⟨rfl, rfl⟩ | ⟨_, hol⟩
    · exact ⟨q, hq, hc.symm⟩
    · exact ⟨new, hol, rfl⟩

theorem Indexed.add (h : s.Indexed) (hf : s.pending.lookup qid = none)
    (hn : s.equivalent.lookup q.criteria = none) :
    (⟨s.pending.insert qid q, s.equivalent.insert q.criteria qid⟩ : QueryState).Indexed := by
  intro crit oth
  constructor
  · intro hl
    rcases Assoc.lookup_insert_cases hl with ⟨rfl, rfl⟩ | ⟨_, hl⟩
    · exact ⟨q, AList.lookup_insert _, rfl⟩
    · obtain ⟨old, ho, hc⟩ := (h crit oth).1 hl
      refine ⟨old, (AList.lookup_insert_ne ?_).trans ho, hc⟩
      rintro rfl
      rw [hf] at ho
      cases ho
  · rintro ⟨old, ho, rfl⟩
    rcases Assoc.lookup_insert_cases ho with ⟨rfl, rfl⟩ | ⟨_, ho⟩
    · exact AList.lookup_insert _
    · have hl := (h old.criteria oth).2 ⟨old, ho, rfl⟩
      refine (AList.lookup_insert_ne ?_).trans hl
      intro hc
      rw [hc, hn] at hl
      cases hl

structure Shrinks (s s' : QueryState) : Prop where
  indexed : s'.Indexed
  old : ∀ queryId q, s'.pending.lookup queryId = some q → s.pending.lookup queryId = some q

theorem Shrinks.refl (h : s.Indexed) : s.Shrinks s := ⟨h, fun _ _ hq => hq⟩

theorem Shrinks.trans (h : s.Shrinks s') (h' : s'.Shrinks s'') : s.Shrinks s'' :=
  ⟨h'.indexed, fun qid q hq => h.old qid q (h'.old qid q hq)⟩

theorem Shrinks.drop (h : s.Indexed) (hq : s.pending.lookup qid = some q) :
    s.Shrinks (s.drop qid q.criteria) :=
  ⟨h.drop hq, fun _ _ ho => (Assoc.lookup_of_erase ho).2⟩

theorem Shrinks.size_le (h : s.Shrinks s') : Assoc.size s'.pending ≤ Assoc.size s.pending := by
  apply Assoc.size_le_of_lookup
  intro qid q hq
  rw [h.old qid q hq]
  rfl

theorem shrinks_foldl {l : List (Sigma fun _ : String => PendingQuery)}
    (h : s.Indexed) (hl : ∀ e ∈ l, s.pending.lookup e.1 = some e.2) (hn : l.NodupKeys) :
    s.Shrinks (l.foldl (fun state e => state.drop e.1 e.2.criteria) s) := by
  induction l generalizing s with
  | nil => exact .refl h
  | cons e l ih =>
    obtain ⟨hh, ht⟩ := List.nodupKeys_cons.1 hn
    have hd := Shrinks.drop h (hl e List.mem_cons_self)
    refine hd.trans (ih hd.indexed ?_ ht)
    intro e' he'
    refine (AList.lookup_erase_ne ?_).trans (hl e' (List.mem_cons_of_mem e he'))
    intro hk
    exact hh (hk ▸ List.mem_keys_of_mem he')

theorem Indexed.cleanup (h : s.Indexed) (nowSecs : UInt64) :
    s.Shrinks (s.cleanupLocked nowSecs) := by
  apply shrinks_foldl h
  · intro e he
    exact AList.mem_lookup_iff.2 (List.mem_filter.1 he).1
  · exact s.pending.nodupKeys.sublist List.filter_sublist

theorem Indexed.abort (h : s.Indexed) (qid : String) : s.Shrinks (s.abort qid) := by
  rw [QueryState.abort]
  split
  · next q hq => exact .drop h hq
  · exact .refl h

end QueryState

structure CapacityQuery.Asks (query : CapacityQuery) (criteria : CapacityCriteria) : Prop where
  cpuMilli : query.cpuMilli = criteria.cpuMilli
  memoryBytes : query.memoryBytes = criteria.memoryBytes
  storageBytes : query.storageBytes = criteria.storageBytes
  requiredCapabilities : query.requiredCapabilities = criteria.requiredCapabilities
  excludedEndpointIds : query.excludedEndpointIds = criteria.excludedEndpointIds

/-- An offer has the resources and capabilities of a query, and its agent is not excluded. -/
structure CapacityQuery.MetBy (query : CapacityQuery) (offer : CapacityOffer) : Prop where
  cpuMilli : query.cpuMilli.toNat ≤ offer.availableCpuMilli.toNat
  memoryBytes : query.memoryBytes.toNat ≤ offer.availableMemoryBytes.toNat
  storageBytes : query.storageBytes.toNat ≤ offer.availableStorageBytes.toNat
  capabilities : ∀ required ∈ query.requiredCapabilities, required ∈ offer.capabilities
  included : offer.agentEndpoint.endpointId ∉ query.excludedEndpointIds

variable {query : CapacityQuery}

theorem CapacityQuery.sign_ok (h : query.sign p signingPublic signingPrivate nowSecs = .ok signed) :
    ∃ signingPubkey signature, signed = { query with signingPubkey, signature } := by
  simp only [sign, bind_ok] at h
  obtain ⟨_, -, _, -, _, -, _, -, _, -, h⟩ := h
  cases h
  exact ⟨_, _, rfl⟩

theorem CapacityCriteria.query_ok
    (h : criteria.query p ident lifetimeSecs nowSecs qid nonce = .ok query) :
    query.queryId = qid ∧ query.Asks criteria := by
  obtain ⟨_, _, h⟩ := bind_ok.1 h
  obtain ⟨_, _, rfl⟩ := CapacityQuery.sign_ok h
  exact ⟨rfl, rfl, rfl, rfl, rfl, rfl⟩

theorem QueryState.checkOffer_ok {pend : PendingQuery}
    (h : checkOffer pend offer ep nowSecs = .ok ()) (ha : pend.query.Asks pend.criteria)
    (he : offer.agentEndpoint.endpointId = ep) : pend.query.MetBy offer := by
  simp only [checkOffer, bind_ok] at h
  obtain ⟨_, -, _, hex, _, hrs, hc⟩ := h
  simp only [ensure_ok, Bool.and_eq_true, decide_eq_true_eq, Bool.not_eq_true',
    List.contains_eq_mem, decide_eq_false_iff_not, List.all_eq_true] at hex hrs hc
  obtain ⟨⟨hcp, hm⟩, hs⟩ := hrs
  exact {
    cpuMilli := ha.cpuMilli ▸ hcp
    memoryBytes := ha.memoryBytes ▸ hm
    storageBytes := ha.storageBytes ▸ hs
    capabilities := fun required hr => hc required (ha.requiredCapabilities ▸ hr)
    included := by
      rw [he, ha.excludedEndpointIds]
      exact hex }

theorem minBy_mem {order : α → α → Ordering} {l : List α} (h : minBy order l = some a) : a ∈ l := by
  have hf : ∀ (rest : List α) (best : α),
      rest.foldl (fun best b => if order b best = .lt then b else best) best ∈ best :: rest := by
    intro rest
    induction rest with
    | nil => exact fun best => List.mem_cons_self
    | cons b rest ih =>
      intro best
      rw [List.foldl_cons]
      split
      · exact List.mem_cons_of_mem best (ih b)
      · rcases List.mem_cons.1 (ih best) with heq | hm
        · rw [heq]
          exact List.mem_cons_self
        · exact List.mem_cons_of_mem best (List.mem_cons_of_mem b hm)
  cases l with
  | nil => cases h
  | cons b rest =>
    cases h
    exact hf rest b

structure Handed where
  queryId : String
  offer : CapacityOffer
  nowSecs : UInt64

def Handed.agent (self : Handed) : Bytes := self.offer.agentEndpoint.endpointId

/-- The query manager together with what it has opened, received and handed out so far. -/
structure Placement where
  state : QueryState
  begun : List CapacityQuery
  submitted : List (Bytes × CapacityOffer)
  handed : List Handed

inductive QueryCall where
  | begin (c : BeginCall)
  | submitOffer (offer : CapacityOffer) (authenticatedEndpoint : Bytes) (nowSecs : UInt64)
  | finish (queryId : String) (nowSecs : UInt64)
  | abort (queryId : String)
  | cleanup (nowSecs : UInt64)

namespace Placement

def fresh : Placement := ⟨.empty, [], [], []⟩

def opened : Except String BegunQuery → List CapacityQuery
  | .ok begun => if begun.newlyCreated then [begun.query] else []
  | .error _ => []

def step (p : Platform) (limits : QueryLimits) (w : Placement) : QueryCall → Option Placement
  | .begin c =>
    let (answer, state) := w.state.begin p limits c
    some { w with state, begun := opened answer ++ w.begun }
  | .submitOffer offer endpoint nowSecs =>
    let (_, state) := w.state.submitOffer p limits offer endpoint nowSecs
    some { w with state, submitted := (endpoint, offer) :: w.submitted }
  | .finish queryId nowSecs =>
    let (answer, state) := w.state.finish queryId nowSecs
    let handed := (answer.map fun offer => (⟨queryId, offer, nowSecs⟩ : Handed)).toList
    some { w with state, handed := handed ++ w.handed }
  | .abort queryId => some { w with state := w.state.abort queryId }
  | .cleanup nowSecs => some { w with state := w.state.cleanupLocked nowSecs }

def FreshIds (w : Placement) : QueryCall → Prop
  | .begin c => ∀ query ∈ w.begun, query.queryId ≠ c.queryId
  | _ => True

end Placement

structure PendingQuery.Sound (limits : QueryLimits) (begun : List CapacityQuery)
    (submitted : List (Bytes × CapacityOffer)) (queryId : String) (pending : PendingQuery) :
    Prop where
  named : pending.query.queryId = queryId
  opened : pending.query ∈ begun
  asks : pending.query.Asks pending.criteria
  bounded : Assoc.size pending.offers ≤ limits.maxOffersPerQuery
  selected : ∀ endpoint ∈ pending.selected, (pending.offers.lookup endpoint).isSome = true
  offered : ∀ endpoint offer, pending.offers.lookup endpoint = some offer →
    offer.agentEndpoint.endpointId = endpoint ∧ (endpoint, offer) ∈ submitted ∧
      pending.query.MetBy offer

theorem PendingQuery.Sound.mono {pend : PendingQuery}
    (h : pend.Sound limits begun submitted queryId) (hb : begun ⊆ begun')
    (hs : submitted ⊆ submitted') : pend.Sound limits begun' submitted' queryId :=
  { h with
    opened := hb h.opened
    offered := fun ep offer ho => by
      obtain ⟨he, hm, hmt⟩ := h.offered ep offer ho
      exact ⟨he, hs hm, hmt⟩ }

structure Handed.Fits (begun : List CapacityQuery) (submitted : List (Bytes × CapacityOffer))
    (h : Handed) : Prop where
  sent : (h.agent, h.offer) ∈ submitted
  unexpired : h.nowSecs.toNat ≤ h.offer.expiresAtSecs.toNat
  met : ∃ query ∈ begun, query.queryId = h.queryId ∧ query.MetBy h.offer

namespace Placement

structure Sound (limits : QueryLimits) (w : Placement) : Prop where
  indexed : w.state.Indexed
  bounded : Assoc.size w.state.pending ≤ limits.maxPendingQueries
  pending : ∀ queryId q, w.state.pending.lookup queryId = some q →
    q.Sound limits w.begun w.submitted queryId
  selected : ∀ h ∈ w.handed, ∀ q, w.state.pending.lookup h.queryId = some q → h.agent ∈ q.selected
  fits : ∀ h ∈ w.handed, h.Fits w.begun w.submitted
  once : (w.handed.map fun h => (h.queryId, h.agent)).Nodup

theorem Sound.fresh (limits : QueryLimits) : Placement.fresh.Sound limits where
  indexed := .empty
  bounded := Nat.zero_le _
  pending := by
    intro qid q h
    cases h
  selected := by
    intro h hh
    cases hh
  fits := by
    intro h hh
    cases hh
  once := List.nodup_nil

variable {w : Placement}

section
variable (h : w.Sound limits)
include h

theorem Sound.shrink {state : QueryState} (hs : w.state.Shrinks state) :
    ({ w with state } : Placement).Sound limits where
  indexed := hs.indexed
  bounded := Nat.le_trans hs.size_le h.bounded
  pending := fun qid q hq => h.pending qid q (hs.old qid q hq)
  selected := fun g hg q hq => h.selected g hg q (hs.old g.queryId q hq)
  fits := h.fits
  once := h.once

theorem Sound.replace (q' : PendingQuery)
    (hq : w.state.pending.lookup qid = some q) (hc : q'.criteria = q.criteria)
    (hsl : q.selected ⊆ q'.selected) (hs : q'.Sound limits w.begun w.submitted qid) :
    ({ w with state := { w.state with pending := w.state.pending.insert qid q' } } :
      Placement).Sound limits where
  indexed := h.indexed.replace hq hc
  bounded := by
    have hsz := Assoc.total_insert_replace (fun _ _ => 1) q' hq
    rw [← Assoc.size_eq_total, ← Assoc.size_eq_total] at hsz
    have hb := h.bounded
    dsimp only
    omega
  pending := by
    intro oth old ho
    rcases Assoc.lookup_insert_cases ho with ⟨rfl, rfl⟩ | ⟨_, ho⟩
    · exact hs
    · exact h.pending oth old ho
  selected := by
    intro g hg old ho
    rcases Assoc.lookup_insert_cases ho with ⟨hid, rfl⟩ | ⟨_, ho⟩
    · exact hsl (h.selected g hg q (hid ▸ hq))
    · exact h.selected g hg old ho
  fits := h.fits
  once := h.once

theorem Sound.record (begun : List CapacityQuery)
    (submitted : List (Bytes × CapacityOffer)) (hb : w.begun ⊆ begun)
    (hs : w.submitted ⊆ submitted) : ({ w with begun, submitted } : Placement).Sound limits where
  indexed := h.indexed
  bounded := h.bounded
  pending := fun qid q hq => (h.pending qid q hq).mono hb hs
  selected := h.selected
  fits := by
    intro g hg
    obtain ⟨hsb, he, query, hqr, hid, hm⟩ := h.fits g hg
    exact ⟨hs hsb, he, query, hb hqr, hid, hm⟩
  once := h.once

theorem Sound.add (hf : ∀ old ∈ w.begun, old.queryId ≠ query.queryId)
    (ha : query.Asks crit) (hn : w.state.equivalent.lookup crit = none)
    (hr : Assoc.size w.state.pending < limits.maxPendingQueries) (targetOffers : Nat) :
    ({ w with
        state := ⟨w.state.pending.insert query.queryId ⟨crit, query, ∅, [], targetOffers, 0⟩,
          w.state.equivalent.insert crit query.queryId⟩
        begun := query :: w.begun } : Placement).Sound limits where
  indexed := by
    refine h.indexed.add (q := ⟨crit, query, ∅, [], targetOffers, 0⟩) ?_ hn
    cases hl : w.state.pending.lookup query.queryId with
    | none => rfl
    | some q =>
      have hq := h.pending query.queryId q hl
      exact absurd hq.named (hf q.query hq.opened)
  bounded := by
    have hsz := Assoc.size_insert_le w.state.pending query.queryId
      ⟨crit, query, ∅, [], targetOffers, 0⟩
    dsimp only
    omega
  pending := by
    intro qid q hq
    rcases Assoc.lookup_insert_cases hq with ⟨rfl, rfl⟩ | ⟨_, hq⟩
    · exact {
        named := rfl
        opened := List.mem_cons_self
        asks := ha
        bounded := Nat.zero_le _
        selected := fun ep he => by cases he
        offered := fun ep offer ho => by cases ho }
    · exact (h.pending qid q hq).mono (List.subset_cons_self _ _) (List.Subset.refl _)
  selected := by
    intro g hg q hq
    rcases Assoc.lookup_insert_cases hq with ⟨hid, _⟩ | ⟨_, hq⟩
    · -- nothing was handed out under an id that is new
      obtain ⟨old, hol, ho', _⟩ := (h.fits g hg).met
      exact absurd (ho'.trans hid) (hf old hol)
    · exact h.selected g hg q hq
  fits := by
    intro g hg
    obtain ⟨hs, hex, old, hol, hid, hm⟩ := h.fits g hg
    exact ⟨hs, hex, old, List.mem_cons_of_mem _ hol, hid, hm⟩
  once := h.once

theorem Sound.begin (hf : ∀ old ∈ w.begun, old.queryId ≠ c.queryId) :
    ({ w with
        state := (w.state.begin p limits c).2
        begun := opened (w.state.begin p limits c).1 ++ w.begun } : Placement).Sound limits := by
  rw [QueryState.begin]
  split
  · exact h
  · have hcl := h.shrink (h.indexed.cleanup c.nowSecs)
    generalize w.state.cleanupLocked c.nowSecs = state at hcl ⊢
    generalize min (max c.targetOffers 1) limits.maxOffersPerQuery = targetOffers
    rw [QueryState.joinQuery]
    split
    · next hn =>
      rw [QueryState.openQuery]
      split
      · exact hcl
      · next hr =>
        split
        · exact hcl
        · next query hqr =>
          obtain ⟨hid, ha⟩ := CapacityCriteria.query_ok hqr
          rw [← hid] at hf
          exact hcl.add hf ha hn (Nat.not_le.1 hr) targetOffers
    · next qid hid =>
      -- an indexed query is pending, so the call joins it
      obtain ⟨q, hq, hc⟩ := (hcl.indexed _ _).1 hid
      rw [hq]
      have hs := hcl.pending qid q hq
      exact hcl.replace _ hq rfl (List.Subset.refl _) { hs with }

theorem Sound.submitOffer :
    ({ w with
        state := (w.state.submitOffer p limits offer endpoint nowSecs).2
        submitted := (endpoint, offer) :: w.submitted } : Placement).Sound limits := by
  have hsn := h.record w.begun ((endpoint, offer) :: w.submitted)
    (List.Subset.refl _) (List.subset_cons_self _ _)
  rw [QueryState.submitOffer]
  split
  · exact hsn
  · next hse =>
    have he : offer.agentEndpoint.endpointId = endpoint :=
      eq_of_beq (ensure_ok.1 (unit_bind_ok.1 hse).2)
    have hc := hsn.shrink (h.indexed.cleanup nowSecs)
    generalize w.state.cleanupLocked nowSecs = state at hc ⊢
    rw [QueryState.recordOffer]
    split
    · exact hc
    · next q hq =>
      split
      · exact hc
      · next hch =>
        split
        · exact hc
        · split
          · exact hc
          · next hf hr =>
            have hs := hc.pending offer.queryId q hq
            refine hc.replace _ hq rfl (List.Subset.refl _) { hs with
              bounded := ?_
              selected := ?_
              offered := ?_ }
            · have hsz := Assoc.size_insert_le q.offers endpoint offer
              dsimp only
              omega
            · intro oth ho
              by_cases heq : oth = endpoint
              · subst heq
                simp
              · rw [AList.lookup_insert_ne heq]
                exact hs.selected oth ho
            · intro oth o ho
              rcases Assoc.lookup_insert_cases ho with ⟨rfl, rfl⟩ | ⟨_, ho⟩
              · exact ⟨he, List.mem_cons_self, QueryState.checkOffer_ok hch hs.asks he⟩
              · exact hs.offered oth o ho

theorem Sound.finish :
    ({ w with
        state := (w.state.finish qid nowSecs).2
        handed := ((w.state.finish qid nowSecs).1.map fun offer =>
          (⟨qid, offer, nowSecs⟩ : Handed)).toList ++ w.handed } : Placement).Sound limits := by
  rw [QueryState.finish]
  split
  · exact h
  · next q hq =>
    split
    · exact h
    · next best hb =>
      obtain ⟨hm, hop⟩ := List.mem_filter.1 (minBy_mem hb)
      obtain ⟨hl, hu⟩ := Bool.and_eq_true_iff.1 hop
      have ho : q.offers.lookup best.1 = some best.2 := AList.mem_lookup_iff.2 hm
      have hsn := h.pending qid q hq
      obtain ⟨ha, hse, hmt⟩ := hsn.offered best.1 best.2 ho
      have hr := h.replace { q with selected := best.1 :: q.selected } hq rfl
        (List.subset_cons_self _ _) { hsn with
          selected := fun ep he => by
            rcases List.mem_cons.1 he with rfl | he
            · rw [ho]
              rfl
            · exact hsn.selected ep he }
      rw [ho]
      refine { hr with selected := ?_, fits := ?_, once := ?_ }
      · intro g hg old hol
        rcases List.mem_cons.1 hg with rfl | hg
        · rw [AList.lookup_insert] at hol
          cases hol
          change best.2.agentEndpoint.endpointId ∈ best.1 :: q.selected
          rw [ha]
          exact List.mem_cons_self
        · exact hr.selected g hg old hol
      · intro g hg
        rcases List.mem_cons.1 hg with rfl | hg
        · refine ⟨?_, of_decide_eq_true hl, q.query, hsn.opened, hsn.named, hmt⟩
          change (best.2.agentEndpoint.endpointId, best.2) ∈ w.submitted
          rw [ha]
          exact hse
        · exact h.fits g hg
      · refine List.nodup_cons.2 ⟨?_, h.once⟩
        intro hag
        obtain ⟨g, hg, heq⟩ := List.mem_map.1 hag
        obtain ⟨hid, hsm⟩ := Prod.mk.inj heq
        have hs := h.selected g hg q (hid ▸ hq)
        rw [hsm] at hs
        change best.2.agentEndpoint.endpointId ∈ q.selected at hs
        rw [ha] at hs
        simp only [Bool.not_eq_true', List.contains_eq_mem, decide_eq_false_iff_not] at hu
        exact hu hs

theorem Sound.step (hf : w.FreshIds a) (hs : w.step p limits a = some w') : w'.Sound limits := by
  cases a with
  | begin c =>
    cases hs
    exact h.begin hf
  | submitOffer offer ep nowSecs =>
    cases hs
    exact h.submitOffer
  | finish qid nowSecs =>
    cases hs
    exact h.finish
  | abort qid =>
    cases hs
    exact h.shrink (h.indexed.abort qid)
  | cleanup nowSecs =>
    cases hs
    exact h.shrink (h.indexed.cleanup nowSecs)

end

theorem reach_sound (h : Reach (step p limits) FreshIds fresh w) : w.Sound limits := by
  refine Reach.invariant (Sound limits) (.fresh limits) ?_ h
  intro w a w' _ hw hf hs
  exact hw.step hf hs

/-- Offers are handed out once per query and agent and fit the query; the two indexes stay in
bijection through the criteria and within their limits. -/
theorem offers_handed_out_once (p : Platform) (limits : QueryLimits)
    (h : Reach (step p limits) FreshIds fresh w) :
    (w.handed.map fun h => (h.queryId, h.agent)).Nodup ∧
    (∀ h ∈ w.handed, (h.agent, h.offer) ∈ w.submitted ∧
      h.nowSecs.toNat ≤ h.offer.expiresAtSecs.toNat ∧ ∃ query ∈ w.begun, query.queryId = h.queryId ∧
        query.cpuMilli.toNat ≤ h.offer.availableCpuMilli.toNat ∧
        query.memoryBytes.toNat ≤ h.offer.availableMemoryBytes.toNat ∧
        query.storageBytes.toNat ≤ h.offer.availableStorageBytes.toNat ∧
        (∀ required ∈ query.requiredCapabilities, required ∈ h.offer.capabilities) ∧
        h.agent ∉ query.excludedEndpointIds) ∧
    (∀ criteria queryId, w.state.equivalent.lookup criteria = some queryId ↔
      ∃ pending, w.state.pending.lookup queryId = some pending ∧ pending.criteria = criteria) ∧
    Assoc.size w.state.pending ≤ limits.maxPendingQueries ∧
    (∀ queryId pending, w.state.pending.lookup queryId = some pending →
      Assoc.size pending.offers ≤ limits.maxOffersPerQuery ∧
      ∀ endpoint ∈ pending.selected, (pending.offers.lookup endpoint).isSome = true) := by
  have hs := reach_sound h
  refine ⟨hs.once, ?_, hs.indexed, hs.bounded, ?_⟩
  · intro g hg
    obtain ⟨hsn, he, query, hq, hid, hm⟩ := hs.fits g hg
    exact ⟨hsn, he, query, hq, hid, hm.cpuMilli, hm.memoryBytes, hm.storageBytes,
      hm.capabilities, hm.included⟩
  · intro queryId pending hp
    have hpn := hs.pending queryId pending hp
    exact ⟨hpn.bounded, hpn.selected⟩

instance (w : Placement) : (a : QueryCall) → Decidable (w.FreshIds a)
  | .begin c => inferInstanceAs (Decidable (∀ query ∈ w.begun, query.queryId ≠ c.queryId))
  | .submitOffer .. | .finish .. | .abort .. | .cleanup .. => .isTrue trivial

def samplePlatform : Platform where
  b64Encode bytes := if bytes.length = 32 then "key" else "signature"
  b64Decode text := if text = "key" then .ok (List.replicate 32 0) else .ok (List.replicate 64 0)
  canonical _ := .ok [0]
  signDomain _ _ _ := .ok (List.replicate 64 0)
  verifyDomain _ _ _ _ := .ok ()
  blake3Hex _ := ""
  parseSocketAddr _ := none

def sampleEndpoint (id : UInt8) : EndpointRecord :=
  ⟨1, List.replicate 32 id, some "https://relay", [], "key", 100, 110, "signature"⟩

def sampleBegin : BeginCall where
  criteria := ⟨100, 1000, 1000, ["gpu"], [List.replicate 32 9]⟩
  identity := ⟨List.replicate 32 0, [], fun _ _ => .ok (sampleEndpoint 1)⟩
  targetOffers := 1
  nowSecs := 100
  queryId := "query"
  nonce := "nonce"

def sampleOffer : CapacityOffer :=
  ⟨1, "query", sampleEndpoint 2, "key", 200, 2000, 2000, ["gpu", "ssd"], 100, 110, "key", "signature"⟩

def sampleLimits : QueryLimits := ⟨4, 4, 10⟩

theorem offers_handed_out_once_sample :
    ∃ w, Reach (step samplePlatform sampleLimits) FreshIds fresh w ∧
      w.handed.map Handed.agent = [List.replicate 32 2] ∧
      (w.handed.map fun h => (h.queryId, h.agent)).Nodup := by
  obtain ⟨w, hf, hh⟩ := exists_reach_of_run (step samplePlatform sampleLimits) FreshIds
    fresh [.begin sampleBegin, .submitOffer sampleOffer (List.replicate 32 2) 101,
      .finish "query" 102, .finish "query" 103]
    (·.handed.map Handed.agent = [List.replicate 32 2]) (by decide +kernel)
  exact ⟨w, hf, hh, (offers_handed_out_once samplePlatform sampleLimits hf).1⟩

end Placement
end Podmesh
