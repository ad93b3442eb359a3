import Mathlib.Data.List.Lex
import Mathlib.Data.Prod.Lex
import Podmesh.Lib.Selection
import Podmesh.Scheduler.Placement

namespace Podmesh

open Selection

theorem bytesLe_toNat : bytesLe a b = true ↔ a.map UInt8.toNat ≤ b.map UInt8.toNat := by
  have hl : ∀ a b : Bytes, bytesLe a b = true ↔
      ¬ List.Lex (fun x y : Nat => x < y) (b.map UInt8.toNat) (a.map UInt8.toNat) := by
    intro a
    induction a with
    | nil =>
      intro b
      exact iff_of_true rfl List.not_lex_nil
    | cons x a ih =>
      intro b
      cases b with
      | nil => exact iff_of_false Bool.false_ne_true (not_not_intro List.Lex.nil)
      | cons y b =>
        rw [bytesLe, List.map_cons, List.map_cons, List.cons_lex_cons_iff, Bool.or_eq_true,
          Bool.and_eq_true, ih b, decide_eq_true_eq, beq_iff_eq, UInt8.lt_iff_toNat_lt,
          ← UInt8.toNat_inj]
        rcases Nat.lt_trichotomy x.toNat y.toNat with hlt | heq | hgt
        · simp [hlt, Nat.lt_asymm hlt, hlt.ne']
        · simp [heq]
        · simp [hgt, Nat.lt_asymm hgt, hgt.ne']
  rw [← not_lt]
  exact hl a b

def CapacityCriteria.fit (criteria : CapacityCriteria) (offer : CapacityOffer) :
    ℕ ×ₗ ℕ ×ₗ ℕ ×ₗ List ℕ :=
  toLex (offer.availableCpuMilli.toNat - criteria.cpuMilli.toNat,
    toLex (offer.availableMemoryBytes.toNat - criteria.memoryBytes.toNat,
      toLex (offer.availableStorageBytes.toNat - criteria.storageBytes.toNat,
        offer.agentEndpoint.endpointId.map UInt8.toNat)))

theorem compareOffers_lt (crit : CapacityCriteria) (a b : CapacityOffer) :
    compareOffers a b crit = .lt ↔ crit.fit a < crit.fit b := by
  have hi : Function.Injective UInt8.toNat := fun _ _ h => UInt8.toNat_inj.1 h
  have hid : ∀ x y : Bytes, (if x = y then Ordering.eq else if bytesLe x y then .lt else .gt) =
      .lt ↔ x.map UInt8.toNat < y.map UInt8.toNat := by
    intro x y
    rw [lt_iff_le_and_ne, ← bytesLe_toNat, Ne, hi.list_map.eq_iff]
    split
    · next heq => simp [heq]
    · next hne => simp [hne]
  simp [compareOffers, CapacityCriteria.fit, Prod.Lex.toLex_lt_toLex, Ordering.then_eq_lt,
    compare_lt_iff_lt, hid]

theorem CapacityCriteria.endpointId_eq {crit : CapacityCriteria} {a b : CapacityOffer}
    (h : crit.fit a = crit.fit b) : a.agentEndpoint.endpointId = b.agentEndpoint.endpointId := by
  have hin : Function.Injective UInt8.toNat := fun _ _ h => UInt8.toNat_inj.1 h
  have hi : a.agentEndpoint.endpointId.map UInt8.toNat =
      b.agentEndpoint.endpointId.map UInt8.toNat :=
    congrArg (fun fit => (ofLex (ofLex (ofLex fit).2).2).2) h
  exact hin.list_map hi

theorem minBy_le [LinearOrder κ] {key : α → κ} {order : α → α → Ordering} {l : List α}
    (hk : ∀ a b, order a b = .lt ↔ key a < key b) (h : minBy order l = some a) (hb : b ∈ l) :
    key a ≤ key b := by
  have hf : ∀ (rest : List α) (best : α), ∀ c ∈ best :: rest,
      key (rest.foldl (fun best b => if order b best = .lt then b else best) best) ≤ key c := by
    intro rest
    induction rest with
    | nil =>
      intro best c hc
      rw [List.mem_singleton.1 hc, List.foldl_nil]
    | cons d rest ih =>
      intro best c hc
      rw [List.foldl_cons]
      split
      · next hlt =>
        rcases List.mem_cons.1 hc with rfl | hc
        · exact (ih d d List.mem_cons_self).trans ((hk d c).1 hlt).le
        · exact ih d c hc
      · next hge =>
        have hle : key best ≤ key d := not_lt.1 fun hlt => hge ((hk d best).2 hlt)
        have hbs := ih best best List.mem_cons_self
        rcases List.mem_cons.1 hc with rfl | hc
        · exact hbs
        · rcases List.mem_cons.1 hc with rfl | hc
          · exact hbs.trans hle
          · exact ih best c (List.mem_cons_of_mem best hc)
  cases l with
  | nil => cases h
  | cons d rest =>
    cases h
    exact hf rest d b hb

theorem minBy_none (h : minBy order l = none) : l = [] := by
  cases l with
  | nil => rfl
  | cons => cases h

structure Arrival where
  offer : CapacityOffer
  endpoint : Bytes
  nowSecs : UInt64

structure Arrival.Valid (p : Platform) (queryId : String) (pending : PendingQuery) (a : Arrival) :
    Prop where
  named : a.offer.queryId = queryId
  sender : QueryState.checkSender p a.offer a.endpoint a.nowSecs = .ok ()
  checked : QueryState.checkOffer pending a.offer a.endpoint a.nowSecs = .ok ()

theorem Arrival.Valid.endpoint {a : Arrival} (h : a.Valid p qid pending) :
    a.offer.agentEndpoint.endpointId = a.endpoint :=
  eq_of_beq (ensure_ok.1 (unit_bind_ok.1 h.sender).2)

theorem Arrival.Valid.punctual {a : Arrival} (h : a.Valid p qid pending) :
    pending.overdue a.nowSecs = false := by
  have hd := of_decide_eq_true (ensure_ok.1 (unit_bind_ok.1 h.checked).1)
  have hm : pending.query.expiresAtSecs.toNat ≤ u64Max :=
    Nat.le_of_lt_succ pending.query.expiresAtSecs.toNat_lt
  rw [PendingQuery.overdue, decide_eq_false_iff_not, saturatingAdd]
  omega

variable {s : QueryState}

namespace QueryState

def submitAll (p : Platform) (limits : QueryLimits) (s : QueryState) (arrivals : List Arrival) :
    QueryState :=
  arrivals.foldl (fun s a => (s.submitOffer p limits a.offer a.endpoint a.nowSecs).2) s

def finishAll (s : QueryState) (queryId : String) : List UInt64 → List (Option CapacityOffer)
  | [] => []
  | nowSecs :: times =>
    let (answer, s) := s.finish queryId nowSecs
    answer :: s.finishAll queryId times

theorem lookup_cleanup (hq : s.pending.lookup qid = some q) (hd : q.overdue nowSecs = false) :
    (s.cleanupLocked nowSecs).pending.lookup qid = some q := by
  have hf : ∀ (l : List (Sigma fun _ : String => PendingQuery)) (s : QueryState),
      (∀ e ∈ l, e.1 ≠ qid) → s.pending.lookup qid = some q →
      (l.foldl (fun state e => state.drop e.1 e.2.criteria) s).pending.lookup qid = some q := by
    intro l
    induction l with
    | nil => exact fun s _ hs => hs
    | cons e l ih =>
      intro s hl hs
      apply ih
      · exact fun e' he' => hl e' (List.mem_cons_of_mem e he')
      · exact (AList.lookup_erase_ne (Ne.symm (hl e List.mem_cons_self))).trans hs
  refine hf _ s ?_ hq
  intro e he hid
  obtain ⟨hm, ho⟩ := List.mem_filter.1 he
  have hlk : s.pending.lookup e.1 = some e.2 := AList.mem_lookup_iff.2 hm
  rw [hid, hq] at hlk
  cases hlk
  rw [hd] at ho
  cases ho

end QueryState

structure PendingQuery.Collected (opened pending : PendingQuery) (arrived : List Arrival) :
    Prop where
  criteria : pending.criteria = opened.criteria
  query : pending.query = opened.query
  selected : pending.selected = []
  size : Assoc.size pending.offers = arrived.length
  offers : ∀ endpoint offer, pending.offers.lookup endpoint = some offer ↔
    ∃ a ∈ arrived, a.endpoint = endpoint ∧ a.offer = offer

variable {pending : PendingQuery}

theorem PendingQuery.Collected.opened (ho : pending.offers = ∅)
    (hs : pending.selected = []) : pending.Collected pending [] where
  criteria := rfl
  query := rfl
  selected := hs
  size := by
    rw [ho]
    rfl
  offers := by
    intro ep offer
    rw [ho]
    constructor
    · intro h
      cases h
    · intro ⟨a, ha, _⟩
      cases ha

variable {opened : PendingQuery}

theorem PendingQuery.Collected.submit {a : Arrival} (hc : opened.Collected pending arrived)
    (hq : s.pending.lookup qid = some pending) (hv : a.Valid p qid opened)
    (hn : ∀ b ∈ arrived, b.endpoint ≠ a.endpoint) (hr : arrived.length < limits.maxOffersPerQuery) :
    ∃ pending', (s.submitOffer p limits a.offer a.endpoint a.nowSecs).2.pending.lookup qid =
      some pending' ∧ opened.Collected pending' (a :: arrived) := by
  have hd : pending.overdue a.nowSecs = false := by
    rw [PendingQuery.overdue, hc.query]
    exact hv.punctual
  have hch : QueryState.checkOffer pending a.offer a.endpoint a.nowSecs = .ok () := by
    rw [QueryState.checkOffer, hc.criteria, hc.query]
    exact hv.checked
  have hf : pending.offers.lookup a.endpoint = none := by
    cases hl : pending.offers.lookup a.endpoint with
    | none => rfl
    | some offer =>
      obtain ⟨b, hb, he, _⟩ := (hc.offers a.endpoint offer).1 hl
      exact absurd he (hn b hb)
  refine ⟨{ pending with
    offers := pending.offers.insert a.endpoint a.offer
    offerCount := Assoc.size (pending.offers.insert a.endpoint a.offer) }, ?_, ?_⟩
  · have hl := QueryState.lookup_cleanup hq hd
    rw [QueryState.submitOffer, hv.sender]
    rw [QueryState.recordOffer, hv.named, hl]
    dsimp only
    rw [hch, hf, hc.size]
    simp only [Option.isSome_none, Bool.false_eq_true, ↓reduceIte, Nat.not_le.2 hr]
    exact AList.lookup_insert _
  · refine ⟨hc.criteria, hc.query, hc.selected, ?_, ?_⟩
    · have hs := Assoc.total_insert_new (fun _ _ => 1) a.offer hf
      rw [← Assoc.size_eq_total, ← Assoc.size_eq_total, hc.size] at hs
      rw [List.length_cons, Nat.add_comm]
      exact hs
    · intro ep offer
      constructor
      · intro hl
        rcases Assoc.lookup_insert_cases hl with ⟨rfl, rfl⟩ | ⟨_, hl⟩
        · exact ⟨a, List.mem_cons_self, rfl, rfl⟩
        · obtain ⟨b, hb, he, ho⟩ := (hc.offers ep offer).1 hl
          exact ⟨b, List.mem_cons_of_mem a hb, he, ho⟩
      · rintro ⟨b, hb, he, ho⟩
        rcases List.mem_cons.1 hb with rfl | hb
        · rw [← he, ← ho]
          exact AList.lookup_insert _
        · refine (AList.lookup_insert_ne ?_).trans ((hc.offers ep offer).2 ⟨b, hb, he, ho⟩)
          rw [← he]
          exact hn b hb

theorem PendingQuery.Collected.submitAll (hc : opened.Collected pending arrived)
    (hq : s.pending.lookup qid = some pending) (hv : ∀ a ∈ arrivals, a.Valid p qid opened)
    (hd : ((arrivals.reverse ++ arrived).map Arrival.endpoint).Nodup)
    (hcn : arrivals.length + arrived.length ≤ limits.maxOffersPerQuery) :
    ∃ pending', (s.submitAll p limits arrivals).pending.lookup qid = some pending' ∧
      opened.Collected pending' (arrivals.reverse ++ arrived) := by
  induction arrivals generalizing s pending arrived with
  | nil => exact ⟨pending, hq, hc⟩
  | cons a arrivals ih =>
    rw [List.reverse_cons, List.append_assoc, List.singleton_append] at hd ⊢
    rw [List.length_cons] at hcn
    have hn : ∀ b ∈ arrived, b.endpoint ≠ a.endpoint := by
      intro b hb heq
      rw [List.map_append, List.map_cons] at hd
      have ht := List.Nodup.of_append_right hd
      exact (List.nodup_cons.1 ht).1 (heq ▸ List.mem_map_of_mem hb)
    have hr : arrived.length < limits.maxOffersPerQuery := by omega
    obtain ⟨pending₁, hq₁, hc₁⟩ := hc.submit hq (hv a List.mem_cons_self) hn hr
    apply ih hc₁ hq₁ (fun b hb => hv b (List.mem_cons_of_mem a hb)) hd
    rw [List.length_cons]
    omega

def CapacityOffer.liveAt (nowSecs : UInt64) (offer : CapacityOffer) : Bool :=
  offer.expiresAtSecs.toNat ≥ nowSecs.toNat

def PendingQuery.Left (pending : PendingQuery) (rest : List CapacityOffer) : Prop :=
  ∀ endpoint offer, (pending.offers.lookup endpoint = some offer ∧ endpoint ∉ pending.selected) ↔
    offer ∈ rest ∧ offer.agentEndpoint.endpointId = endpoint

section
variable (h : pending.Left rest)
include h

theorem PendingQuery.Left.mem_available (e : Sigma fun _ : Bytes => CapacityOffer) :
    e ∈ pending.available nowSecs ↔
      (e.2 ∈ rest ∧ e.2.agentEndpoint.endpointId = e.1) ∧ e.2.liveAt nowSecs = true := by
  rw [PendingQuery.available, List.mem_filter, ← h e.1 e.2, Bool.and_eq_true, Bool.not_eq_true',
    List.contains_eq_mem, decide_eq_false_iff_not]
  have hlk : e ∈ pending.offers.entries ↔ pending.offers.lookup e.1 = some e.2 :=
    AList.mem_lookup_iff.symm
  rw [hlk]
  exact ⟨fun ⟨hl, hlv, hs⟩ => ⟨⟨hl, hs⟩, hlv⟩, fun ⟨⟨hl, hs⟩, hlv⟩ => ⟨hl, hlv, hs⟩⟩

theorem PendingQuery.Left.hand
    (hm : ∀ offer, offer ∈ rest' ↔ offer ∈ rest ∧ offer ≠ best) (hb : best ∈ rest) :
    PendingQuery.Left
      { pending with selected := best.agentEndpoint.endpointId :: pending.selected } rest' := by
  obtain ⟨hlk, _⟩ := (h _ best).2 ⟨hb, rfl⟩
  intro ep offer
  rw [hm, List.mem_cons, not_or]
  constructor
  · intro ⟨hl, hne, hs⟩
    obtain ⟨ho, he⟩ := (h ep offer).1 ⟨hl, hs⟩
    refine ⟨⟨ho, ?_⟩, he⟩
    rintro rfl
    exact hne he.symm
  · intro ⟨⟨ho, hne⟩, he⟩
    obtain ⟨hl, hs⟩ := (h ep offer).2 ⟨ho, he⟩
    refine ⟨hl, ?_, hs⟩
    rintro rfl
    -- one agent has one offer
    rw [hlk] at hl
    exact hne (Option.some.inj hl).symm

theorem PendingQuery.Left.finish (hq : s.pending.lookup qid = some pending)
    (hs : Ascending pending.criteria.fit rest) (nowSecs : UInt64) :
    (s.finish qid nowSecs).1 = rest.find? (CapacityOffer.liveAt nowSecs) ∧
    ∃ pending', (s.finish qid nowSecs).2.pending.lookup qid = some pending' ∧
      pending'.criteria = pending.criteria ∧
      pending'.Left (rest.eraseP (CapacityOffer.liveAt nowSecs)) := by
  have hk : ∀ a b : Sigma fun _ : Bytes => CapacityOffer,
      compareOffers a.2 b.2 pending.criteria = .lt ↔
        pending.criteria.fit a.2 < pending.criteria.fit b.2 :=
    fun a b => compareOffers_lt pending.criteria a.2 b.2
  rw [QueryState.finish, hq]
  dsimp only
  cases hf : rest.find? (CapacityOffer.liveAt nowSecs) with
  | none =>
    have hd := List.find?_eq_none.1 hf
    have hn : pending.available nowSecs = [] := by
      apply List.eq_nil_iff_forall_not_mem.2
      intro e he
      obtain ⟨⟨hmm, _⟩, hl⟩ := h.mem_available e |>.1 he
      exact hd e.2 hmm hl
    rw [hn, List.eraseP_of_forall_not hd]
    exact ⟨rfl, pending, hq, rfl, h⟩
  | some best =>
    have hb := List.mem_of_find?_eq_some hf
    have hl := List.find?_some hf
    have ha := (h.mem_available ⟨best.agentEndpoint.endpointId, best⟩).2
      ⟨⟨hb, rfl⟩, hl⟩
    cases hm : minBy (fun a b => compareOffers a.2 b.2 pending.criteria)
        (pending.available nowSecs) with
    | none =>
      rw [minBy_none hm] at ha
      cases ha
    | some e =>
      obtain ⟨⟨hmm, hid⟩, hel⟩ := (h.mem_available e).1 (minBy_mem hm)
      have hle : pending.criteria.fit e.2 ≤ pending.criteria.fit best :=
        minBy_le (α := Sigma fun _ : Bytes => CapacityOffer) hk hm ha
      have heq : e.2 = best :=
        (hs.find_least hf hmm hel).resolve_right (not_lt.2 hle)
      have hlk := ((h e.1 e.2).2 ⟨hmm, hid⟩).1
      dsimp only
      rw [hlk, heq, ← hid, heq]
      refine ⟨rfl, _, AList.lookup_insert _, rfl, ?_⟩
      exact h.hand (fun offer => mem_eraseP_iff hs.nodup hf) hb

theorem PendingQuery.Left.finishAll (hq : s.pending.lookup qid = some pending)
    (hs : Ascending pending.criteria.fit rest) (times : List UInt64) :
    s.finishAll qid times = handOut CapacityOffer.liveAt rest times := by
  induction times generalizing s pending rest with
  | nil => rfl
  | cons nowSecs times ih =>
    obtain ⟨ha, pending', hq', hc, hl⟩ := h.finish hq hs nowSecs
    rw [← hc] at hs
    rw [QueryState.finishAll, handOut, ← ih hl hq' (hs.eraseP _), ← ha]

end

def CapacityCriteria.ranked (criteria : CapacityCriteria) (arrivals : List Arrival) :
    List CapacityOffer :=
  (arrivals.map Arrival.offer).insertionSort fun a b => criteria.fit a ≤ criteria.fit b

theorem CapacityCriteria.mem_ranked {crit : CapacityCriteria} :
    offer ∈ crit.ranked arrivals ↔ ∃ a ∈ arrivals, a.offer = offer :=
  (List.mem_insertionSort _).trans List.mem_map

theorem CapacityCriteria.ascending_ranked (crit : CapacityCriteria)
    (hid : ∀ a ∈ arrivals, a.offer.agentEndpoint.endpointId = a.endpoint)
    (hd : (arrivals.map Arrival.endpoint).Nodup) : Ascending crit.fit (crit.ranked arrivals) := by
  apply ascending_insertionSort
  rw [List.map_map]
  have hi : ∀ a ∈ arrivals, ∀ b ∈ arrivals, crit.fit a.offer = crit.fit b.offer →
      a.endpoint = b.endpoint := by
    intro a ha b hb heq
    rw [← hid a ha, ← hid b hb]
    exact CapacityCriteria.endpointId_eq heq
  refine List.pairwise_map.2 ((List.pairwise_map.1 hd).imp_of_mem ?_)
  intro a b ha hb hne heq
  exact hne (hi a ha b hb heq)

theorem PendingQuery.Collected.left
    (h : opened.Collected pending arrived) (hv : ∀ a ∈ arrived, a.Valid p qid opened)
    (hm : ∀ offer, offer ∈ rest ↔ ∃ a ∈ arrived, a.offer = offer) : pending.Left rest := by
  intro ep offer
  rw [h.selected, h.offers ep offer, hm offer]
  constructor
  · intro ⟨⟨a, ha, he, ho⟩, _⟩
    refine ⟨⟨a, ha, ho⟩, ?_⟩
    rw [← ho, ← he]
    exact (hv a ha).endpoint
  · intro ⟨⟨a, ha, ho⟩, he⟩
    refine ⟨⟨a, ha, ?_, ho⟩, List.not_mem_nil⟩
    rw [← he, ← ho]
    exact (hv a ha).endpoint.symm

structure Arrivals (p : Platform) (limits : QueryLimits) (queryId : String) (opened : PendingQuery)
    (arrivals : List Arrival) : Prop where
  valid : ∀ a ∈ arrivals, a.Valid p queryId opened
  distinct : (arrivals.map Arrival.endpoint).Nodup
  bounded : arrivals.length ≤ limits.maxOffersPerQuery

theorem Arrivals.answers (h : Arrivals p limits qid opened arrivals)
    (hq : s.pending.lookup qid = some opened) (ho : opened.offers = ∅)
    (hs : opened.selected = []) (hsr : Ascending opened.criteria.fit rest)
    (hm : ∀ offer, offer ∈ rest ↔ ∃ a ∈ arrivals, a.offer = offer) (times : List UInt64) :
    (s.submitAll p limits arrivals).finishAll qid times =
      handOut CapacityOffer.liveAt rest times := by
  have hpr : (arrivals.reverse ++ []).Perm arrivals := by
    rw [List.append_nil]
    exact List.reverse_perm arrivals
  have hd := (hpr.map Arrival.endpoint).nodup_iff.2 h.distinct
  obtain ⟨pending, hp, hc⟩ :=
    (PendingQuery.Collected.opened ho hs).submitAll hq h.valid hd h.bounded
  have hl : pending.Left rest := by
    apply hc.left fun a ha => h.valid a (hpr.mem_iff.1 ha)
    intro offer
    rw [hm offer]
    exact exists_congr fun a => and_congr_left' hpr.mem_iff.symm
  apply hl.finishAll hp
  rw [hc.criteria]
  exact hsr

/-- Two runs with the same offers in two orders of arrival and the same calls of `finish` answer the
same: the live offers, the tightest fit first, each once, until none is left. -/
theorem selection_order_independent {s : QueryState} {opened : PendingQuery}
    (hq : s.pending.lookup queryId = some opened) (hoffers : opened.offers = ∅)
    (hselected : opened.selected = []) (harrivals : Arrivals p limits queryId opened arrivals)
    (harrivals' : Arrivals p limits queryId opened arrivals')
    (hsame : (arrivals.map Arrival.offer).Perm (arrivals'.map Arrival.offer))
    (times : List UInt64) :
    (s.submitAll p limits arrivals').finishAll queryId times =
      (s.submitAll p limits arrivals).finishAll queryId times ∧
    (s.submitAll p limits arrivals).finishAll queryId times =
      handOut CapacityOffer.liveAt (opened.criteria.ranked arrivals) times ∧
    ((s.submitAll p limits arrivals).finishAll queryId times).reduceOption.Nodup ∧
    (times.Pairwise (· ≤ ·) → Ascending opened.criteria.fit
      ((s.submitAll p limits arrivals).finishAll queryId times).reduceOption) ∧
    (∀ before nowSecs answers a, times = before ++ [nowSecs] →
      (s.submitAll p limits arrivals).finishAll queryId times = answers ++ [none] →
      a ∈ arrivals → a.offer.liveAt nowSecs = true → some a.offer ∈ answers) := by
  have hs := opened.criteria.ascending_ranked
    (fun a ha => (harrivals.valid a ha).endpoint) harrivals.distinct
  have hm : ∀ offer, offer ∈ opened.criteria.ranked arrivals ↔
      ∃ a ∈ arrivals', a.offer = offer := by
    intro offer
    rw [CapacityCriteria.mem_ranked, ← List.mem_map, ← List.mem_map]
    exact hsame.mem_iff
  have han := harrivals.answers hq hoffers hselected hs
    (fun _ => CapacityCriteria.mem_ranked) times
  have ha' := harrivals'.answers hq hoffers hselected hs hm times
  rw [han, ha']
  refine ⟨rfl, rfl, handOut_nodup hs.nodup times, ?_, ?_⟩
  · intro ht
    apply handOut_ascending hs ?_ ht
    intro t t' offer hle hl
    have he : t'.toNat ≤ offer.expiresAtSecs.toNat := of_decide_eq_true hl
    exact decide_eq_true ((UInt64.le_iff_toNat_le.1 hle).trans he)
  · intro before nowSecs answers a ht hls ha hl
    rw [ht] at hls
    exact handOut_exhausts hs.nodup hls (CapacityCriteria.mem_ranked.2 ⟨a, ha, rfl⟩) hl

namespace Placement

def sampleOpened : PendingQuery where
  criteria := sampleBegin.criteria
  query :=
    ⟨1, "query", "nonce", 100, 1000, 1000, ["gpu"], [List.replicate 32 9], sampleEndpoint 1, 100, 110,
      "key", "signature"⟩
  offers := ∅
  selected := []
  targetOffers := 2
  offerCount := 0

def sampleArrival (id : UInt8) (cpu : UInt32) (nowSecs : UInt64) : Arrival where
  offer := { sampleOffer with agentEndpoint := sampleEndpoint id, availableCpuMilli := cpu }
  endpoint := List.replicate 32 id
  nowSecs := nowSecs

/-- Two agents offer, in both orders, and the tighter fit is answered first. -/
theorem selection_order_independent_sample :
    let s : QueryState := ⟨AList.insert "query" sampleOpened ∅, ∅⟩
    let arrivals := [sampleArrival 2 300 101, sampleArrival 3 200 102]
    let arrivals' := [sampleArrival 3 200 101, sampleArrival 2 300 103]
    (s.submitAll samplePlatform sampleLimits arrivals').finishAll "query" [104, 105, 106] =
      (s.submitAll samplePlatform sampleLimits arrivals).finishAll "query" [104, 105, 106] ∧
    ((s.submitAll samplePlatform sampleLimits arrivals).finishAll "query" [104, 105, 106]).map
      (Option.map CapacityOffer.availableCpuMilli) = [some 200, some 300, none] := by
  intro s arrivals arrivals'
  have hf : Arrivals samplePlatform sampleLimits "query" sampleOpened arrivals := by
    refine ⟨?_, by decide +kernel, by decide⟩
    intro a ha
    rcases List.mem_pair.1 ha with rfl | rfl <;> exact ⟨rfl, rfl, rfl⟩
  have hs : Arrivals samplePlatform sampleLimits "query" sampleOpened arrivals' := by
    refine ⟨?_, by decide +kernel, by decide⟩
    intro a ha
    rcases List.mem_pair.1 ha with rfl | rfl <;> exact ⟨rfl, rfl, rfl⟩
  exact ⟨(selection_order_independent (AList.lookup_insert _) rfl rfl hf hs
    (List.Perm.swap _ _ _) [104, 105, 106]).1, by decide +kernel⟩

end Placement
end Podmesh
